import GdsSdk.Websocket.LoginProgress

/-!
# Opening the socket starts the login

`Connect()` moves `State` on to `CONNECTING` only after it has called `Open()` on the socket, and
`OnSocketOpened` expects to find it there.  A socket that opens at once raises `Opened` on another
thread before that, and then the callback throws while `State` is still `INITIALIZING`: no login
message is sent, and `Connect()` waits for its timeout.  In an undisturbed run in which the
callback comes second, it hands over exactly one login message and leaves the client at
`LOGGING_IN`, or beyond it at `LOGGED_IN`.
-/

namespace Gds

open Transition AsyncGDSClient

/-! ## Undisturbed runs -/

/-- The login message can be written. -/
def LoginEncodes (cfg : Config) (stamp : Stamp) : Prop :=
  (MessageManager.getBinaryFromMessage cfg.wire (loginMessage cfg stamp)).isOk = true

instance (cfg : Config) (stamp : Stamp) : Decidable (LoginEncodes cfg stamp) :=
  inferInstanceAs (Decidable (_ = true))

/-- The binary is a negative acknowledgement of the login. -/
def isRejection (cfg : Config) (binary : List UInt8) : Bool :=
  match MessageManager.getMessageFromBinary cfg.wire binary with
  | .ok ⟨_, some (.connectionAck ackData)⟩ => ackData.status ≠ .ok
  | _ => false

/-- The socket raises `Opened` once, after `Open()` was called and with a login message that can be
written, and receives no negative acknowledgement. -/
def OpensOnce (cfg : Config) : Guard Client Label := fun s l =>
  match l with
  | .raise (.opened stamp) => s.shared.socket.openCalled = true ∧
      s.shared.socket.openedRaised = false ∧ LoginEncodes cfg stamp
  | .raise (.dataReceived binary) => isRejection cfg binary = false
  | _ => True

instance (cfg : Config) (s : Client) (l : Label) : Decidable (OpensOnce cfg s l) :=
  match l with
  | .raise (.opened _) => inferInstanceAs (Decidable (_ ∧ _))
  | .raise (.dataReceived _) => inferInstanceAs (Decidable (_ = false))
  | .raise (.error _) | .raise .closed | .call _ | .step _ | .expire _ | .abort _ =>
    inferInstanceAs (Decidable True)

/-- A run in which the socket is opened once and no close, error, negative acknowledgement or
timeout gets in the way. -/
def Undisturbed (cfg : Config) : Guard Client Label := fun s l => OpensOnce cfg s l ∧ Calm s l

instance (cfg : Config) (s : Client) (l : Label) : Decidable (Undisturbed cfg s l) :=
  inferInstanceAs (Decidable (_ ∧ _))

/-- A step of `OnSocketOpened`. -/
def Pc.isOpened : Pc → Bool
  | .opened _ => true
  | _ => false

/-- Opening the socket starts the login. -/
structure OpeningLogsIn (cfg : Config) (ok : Guard Client Label) : Prop where
  /-- No step of `OnSocketOpened` throws. -/
  not_threw : ∀ s l s' i pc e, (system cfg).Reachable ok s → ok s l → step cfg s l = some s' →
    l.thread = some i → s.threads[i]? = some (.opened pc) →
    s'.shared.log ≠ .threw i e :: s.shared.log
  /-- Once it has finished, the login message was handed to the socket exactly once, and the
  client is logging in or logged in. -/
  logs_in : ∀ s, (system cfg).Reachable ok s → s.shared.socket.openedRaised = true →
    (∀ q ∈ s.threads, q.isOpened = false) →
    s.shared.log.countP Event.isLoginMessage = 1 ∧
      (s.shared.state = .loggingIn ∨ s.shared.state = .loggedIn)

/-- `OnSocketOpened` is about to look at `State`. -/
def Pc.isConnecting : Pc → Bool
  | .opened (.compareExchangeConnected _) => true
  | _ => false

/-- `OnSocketOpened` only looks at `State` once `Connect()` has moved it on from
`INITIALIZING`. -/
def OpenedInTurn (s : Client) (_ : ℕ) (pc : Pc) : Prop :=
  pc.isConnecting = true → s.shared.state ≠ .initializing

instance (s : Client) (i : ℕ) (pc : Pc) : Decidable (OpenedInTurn s i pc) :=
  inferInstanceAs (Decidable (_ → _))

/-! ## What the threads know -/

/-- How far a client has come at least when a thread is at a program point. -/
def Pc.leastStage : Pc → ℕ
  | .connect .compareExchange => 0
  | .connect _ | .opened (.exchange _) | .opened (.compareExchangeConnected _) => 1
  | .opened (.send _) | .opened .compareExchangeLoggingIn => 3
  | _ => 0

/-- What the socket opened with, as long as the login message is not sent. -/
def Pc.stamp : Pc → Option Stamp
  | .opened (.exchange stamp) | .opened (.compareExchangeConnected stamp)
  | .opened (.send stamp) => some stamp
  | _ => none

/-- No negative acknowledgement is in progress. -/
def Pc.Positive (cfg : Config) : Pc → Prop
  | .received (.decode binary) => isRejection cfg binary = false
  | .received (.signal _ ackData) | .received (.compareExchange _ ackData) => ackData.status = .ok
  | _ => True

/-- What a thread of an undisturbed run knows at its program point. -/
structure KnowsOpening (cfg : Config) (sh : Shared) (pc : Pc) : Prop where
  stage : pc.leastStage ≤ sh.state.stage
  encodes : ∀ stamp ∈ pc.stamp, LoginEncodes cfg stamp
  positive : pc.Positive cfg

/-- What the shared state of an undisturbed run satisfies. -/
structure StaysOpen (sh : Shared) : Prop where
  /-- The client has not come to its end. -/
  not_terminal : ¬ sh.state.Terminal
  /-- `Open()` is only called after the client has left its first state. -/
  openCalled : sh.socket.openCalled = true → 1 ≤ sh.state.stage

namespace KnowsOpening

variable {cfg : Config} {sh sh' : Shared} {pc : Pc}

/-- Progress does not take away what a thread knows. -/
lemma mono (h : KnowsOpening cfg sh pc) (hp : Progress sh sh') : KnowsOpening cfg sh' pc where
  stage := Nat.le_trans h.stage hp.stage
  encodes := h.encodes
  positive := h.positive

lemma call (c : Call) : KnowsOpening cfg sh (c.start cfg) := by
  cases c <;> exact ⟨Nat.zero_le _, by rintro stamp ⟨⟩, trivial⟩

end KnowsOpening

namespace Move

variable {cfg : Config} {i : ℕ} {sh sh' : Shared} {pc pc' : Pc}

/-- A client does not come to its end in a calm step that handles no negative acknowledgement. -/
lemma stays_open (h : Move cfg i sh pc sh' pc') (hcalm : pc.isDisturbance = false)
    (hpositive : pc.Positive cfg) (hs : ¬ sh.state.Terminal) : ¬ sh'.state.Terminal := by
  cases h with
  | rejects _ _ hstatus => exact absurd hpositive hstatus
  | connectStarts | connecting | openedConnects | loggingIn | accepts =>
    simp [ConnectionState.Terminal]
  | timeoutFails | errorFails | closedDisconnects | closeDisconnects => cases hcalm
  | _ => exact hs

/-- A thread gets no further than the client. -/
lemma leastStage_le (h : Move cfg i sh pc sh' pc') (hpc : pc.leastStage ≤ sh.state.stage) :
    pc'.leastStage ≤ sh'.state.stage := by
  cases h with
  | connectStarts | openedConnects => exact Nat.le_refl _
  | openedTolerates _ hs =>
    rw [hs]
    simp [Pc.leastStage, ConnectionState.stage]
  | connecting | timeoutFails => simp [Pc.leastStage, ConnectionState.stage]
  | closeReturns caller => cases caller <;> exact Nat.zero_le _
  | _ => first
    | exact hpc
    | exact Nat.zero_le _

lemma stamp_eq (h : Move cfg i sh pc sh' pc') : pc'.stamp = none ∨ pc'.stamp = pc.stamp := by
  cases h with
  | openedMarks | openedConnects | openedTolerates => exact .inr rfl
  | closeReturns caller => cases caller <;> exact .inl rfl
  | _ => exact .inl rfl

lemma positive (h : Move cfg i sh pc sh' pc') (hpc : pc.Positive cfg) : pc'.Positive cfg := by
  cases h with
  | receivedAck binary header ackData hdecode =>
    simpa [Pc.Positive, isRejection, hdecode] using hpc
  | signals => exact hpc
  | closeReturns caller => cases caller <;> trivial
  | _ => trivial

lemma knowsOpening (h : Move cfg i sh pc sh' pc') (hpc : KnowsOpening cfg sh pc) :
    KnowsOpening cfg sh' pc' where
  stage := h.leastStage_le hpc.stage
  encodes stamp hstamp := by
    rcases h.stamp_eq with hnone | hold
    · rw [hnone] at hstamp
      cases hstamp
    · rw [hold] at hstamp
      exact hpc.encodes stamp hstamp
  positive := h.positive hpc.positive

/-- `Open()` is called by the thread of `Connect()`. -/
lemma openCalled (h : Move cfg i sh pc sh' pc') (hpc : pc.leastStage ≤ sh.state.stage)
    (hI : sh.socket.openCalled = true → 1 ≤ sh.state.stage)
    (hcalled : sh'.socket.openCalled = true) : 1 ≤ sh'.state.stage := by
  refine Nat.le_trans ?_ h.progress.stage
  cases h with
  | opens => exact hpc
  | _ => exact hI hcalled

/-- Moves raise no events. -/
lemma openedRaised (h : Move cfg i sh pc sh' pc') :
    sh'.socket.openedRaised = sh.socket.openedRaised := by
  cases h <;> rfl

end Move

namespace AsyncGDSClient

variable {cfg : Config} {s s' : Client} {l : Label}

/-- What the threads and the shared state of a client satisfy in an undisturbed run. -/
theorem knowsOpening (h : (system cfg).Reachable (Undisturbed cfg) s) :
    s.Annotated StaysOpen (KnowsOpening cfg) := by
  have hinit : StaysOpen (system cfg).init.shared :=
    ⟨by simp [system, Shared.init, ConnectionState.Terminal], fun hcalled => by cases hcalled⟩
  refine h.invariant ⟨hinit, fun pc hpc => by cases hpc⟩ fun s l s' hs hl hstep => ?_
  refine annotated_step hs hstep (fun c => KnowsOpening.call c) ?_ ?_
  · rintro e rfl -
    have hp := e.progress s.shared
    refine ⟨⟨hs.shared.not_terminal, fun hcalled => ?_⟩, ?_, fun q _ hq => hq.mono hp⟩
    · cases e <;> exact hs.shared.openCalled hcalled
    · cases e with
      | opened stamp =>
        obtain ⟨hcalled, -, hencodes⟩ := hl.1
        refine ⟨hs.shared.openCalled hcalled, ?_, trivial⟩
        rintro _ ⟨⟩
        exact hencodes
      | dataReceived binary => exact ⟨Nat.zero_le _, by rintro stamp ⟨⟩, hl.1⟩
      | error | closed => exact ⟨Nat.zero_le _, by rintro stamp ⟨⟩, trivial⟩
  · intro i pc sh' pc' hi hpc hm
    have hknows := hs.at hpc
    exact ⟨⟨hm.stays_open (hl.2 i hi pc hpc) hknows.positive hs.shared.not_terminal,
      hm.openCalled hknows.stage hs.shared.openCalled⟩, hm.knowsOpening hknows,
      fun q _ hq => hq.mono hm.progress⟩

end AsyncGDSClient

/-! ## One callback -/

/-- Before the callback has looked at `State`. -/
def Pc.isEarly : Pc → Bool
  | .opened (.exchange _) | .opened (.compareExchangeConnected _) => true
  | _ => false

/-- Before the callback has sent the login message. -/
def Pc.isBeforeSend : Pc → Bool
  | .opened (.exchange _) | .opened (.compareExchangeConnected _) | .opened (.send _) => true
  | _ => false

lemma Pc.isOpened_of_isEarly {pc : Pc} (h : pc.isEarly = true) : pc.isOpened = true := by
  cases pc with
  | opened => rfl
  | _ => cases h

lemma Pc.isOpened_of_isBeforeSend {pc : Pc} (h : pc.isBeforeSend = true) :
    pc.isOpened = true := by
  cases pc with
  | opened => rfl
  | _ => cases h

namespace Move

variable {cfg : Config} {i : ℕ} {sh sh' : Shared} {pc pc' : Pc}

/-- Only the callback connects a client. -/
lemma connected_le (h : Move cfg i sh pc sh' pc') (hs : ¬ sh.state.Terminal)
    (hs' : ¬ sh'.state.Terminal) :
    min 1 (sh'.state.stage - 2) + pc'.isEarly.toNat ≤
      min 1 (sh.state.stage - 2) + pc.isEarly.toNat := by
  cases h with
  | connectStarts h | connecting h | openedConnects _ h | loggingIn h | accepts _ _ _ h =>
    simp [h, ConnectionState.stage, Pc.isEarly]
  | timeoutFails | errorFails | closedDisconnects | closeDisconnects | rejects =>
    simp [ConnectionState.Terminal] at hs'
  | openedTolerates _ h => exact absurd (.inl h) hs
  | closeReturns caller => cases caller <;> simp [Pc.isEarly, CloseCaller.next]
  | _ => simp [Pc.isEarly]

/-- Only the callback brings a client to its login, and it ends with that. -/
lemma loggingIn_le (h : Move cfg i sh pc sh' pc') (hs' : ¬ sh'.state.Terminal) :
    min 1 (sh'.state.stage - 3) + pc'.isOpened.toNat ≤
      min 1 (sh.state.stage - 3) + pc.isOpened.toNat := by
  cases h with
  | connectStarts h | connecting h | openedConnects _ h | loggingIn h | accepts _ _ _ h =>
    simp [h, ConnectionState.stage, Pc.isOpened]
  | timeoutFails | errorFails | closedDisconnects | closeDisconnects | rejects =>
    simp [ConnectionState.Terminal] at hs'
  | closeReturns caller => cases caller <;> simp [Pc.isOpened, CloseCaller.next]
  | _ => simp [Pc.isOpened]

/-- Only the callback sends a login message, and only once. -/
lemma login_le (h : Move cfg i sh pc sh' pc') :
    sh'.log.countP Event.isLoginMessage + pc'.isBeforeSend.toNat ≤
      sh.log.countP Event.isLoginMessage + pc.isBeforeSend.toNat := by
  cases h with
  | closeReturns caller =>
    cases caller <;> simp [Event.isLoginMessage, Pc.isBeforeSend, CloseCaller.next]
  | _ => simp [List.countP_cons, Event.isLoginMessage, Pc.isBeforeSend]

end Move

namespace AsyncGDSClient

variable {cfg : Config} {s s' : Client} {l : Label} {i : ℕ} {pc : OnSocketOpenedPc}

/-- What only the callback brings about, and at most once, has not happened before `Opened` is
raised, and only once afterwards. -/
lemma opened_bound {n : Shared → ℕ} {f : Pc → Bool} (hinit : n Shared.init = 0)
    (hf : ∀ pc, f pc = true → pc.isOpened = true) (hraise : ∀ sh e, n (Shared.raise sh e) = n sh)
    (hmove : ∀ i sh pc sh' pc', Move cfg i sh pc sh' pc' → ¬ sh.state.Terminal →
      ¬ sh'.state.Terminal → n sh' + (f pc').toNat ≤ n sh + (f pc).toNat)
    (h : (system cfg).Reachable (Undisturbed cfg) s) :
    n s.shared + s.threads.countP f ≤ s.shared.socket.openedRaised.toNat := by
  have hother : ∀ pc : Pc, pc.isOpened = false → f pc = false := by
    intro pc hpc
    by_contra hne
    rw [hf pc (by simpa using hne)] at hpc
    cases hpc
  refine h.invariant_of (J := fun t => t.Annotated StaysOpen (KnowsOpening cfg))
    (I := fun t => n t.shared + t.threads.countP f ≤ t.shared.socket.openedRaised.toNat)
    (fun t ht => knowsOpening ht) (by simp [system, hinit]) fun s l s' hknows hs hl hstep => ?_
  refine bound_step (n := n) (m := fun sh => sh.socket.openedRaised.toNat) hs hstep ?_ ?_ ?_
  · intro c
    exact hother _ (by cases c <;> rfl)
  · rintro e rfl
    rw [hraise]
    cases e with
    | opened stamp =>
      obtain ⟨-, hraised, -⟩ := hl.1
      have hle := Bool.toNat_le (f (SocketEvent.opened stamp).start)
      simp only [Shared.raise, SocketEvent.raised, hraised, Bool.toNat_false, Bool.toNat_true]
      omega
    | error | closed | dataReceived =>
      rw [hother _ rfl]
      exact Nat.le_refl _
  · intro i pc sh' pc' hi hpc hm
    have hopen := hm.stays_open (hl.2 i hi pc hpc) (hknows.at hpc).positive
      hknows.shared.not_terminal
    have hle := hmove i s.shared pc sh' pc' hm hknows.shared.not_terminal hopen
    simp only [hm.openedRaised]
    omega

/-- At most one login message is handed to the socket. -/
lemma login_le_one (h : (system cfg).Reachable (Undisturbed cfg) s) :
    s.shared.log.countP Event.isLoginMessage ≤ 1 := by
  have hbound := opened_bound (n := fun sh => sh.log.countP Event.isLoginMessage)
    (f := Pc.isBeforeSend) rfl
    (fun _ => Pc.isOpened_of_isBeforeSend) (fun _ _ => rfl)
    (fun _ _ _ _ _ hm _ _ => hm.login_le) h
  have hle := Bool.toNat_le s.shared.socket.openedRaised
  omega

/-- When the callback is about to look at `State`, it is `CONNECTING`, or still
`INITIALIZING`. -/
lemma connecting_of_early {stamp : Stamp} (h : (system cfg).Reachable (Undisturbed cfg) s)
    (hpc : s.threads[i]? = some (.opened (.compareExchangeConnected stamp))) :
    s.shared.state = .initializing ∨ s.shared.state = .connecting := by
  have hknows := knowsOpening h
  have hlow : 1 ≤ s.shared.state.stage := (hknows.at hpc).stage
  have hbound := opened_bound (n := fun sh => min 1 (sh.state.stage - 2))
    (f := Pc.isEarly) rfl
    (fun _ => Pc.isOpened_of_isEarly) (fun _ _ => rfl)
    (fun _ _ _ _ _ hm hs hs' => hm.connected_le hs hs') h
  have hcount : 1 ≤ s.threads.countP Pc.isEarly := Pool.toNat_le_countP Pc.isEarly hpc
  have hle := Bool.toNat_le s.shared.socket.openedRaised
  have hstage : s.shared.state.stage = 1 ∨ s.shared.state.stage = 2 := by omega
  rcases hstage with hstage | hstage
  · exact .inl (ConnectionState.eq_of_stage_eq (t := .initializing) hstage (by decide))
  · exact .inr (ConnectionState.eq_of_stage_eq (t := .connecting) hstage (by decide))

/-- Behind its send the callback finds `CONNECTED`. -/
lemma connected_of_late (h : (system cfg).Reachable (Undisturbed cfg) s)
    (hpc : s.threads[i]? = some (.opened .compareExchangeLoggingIn)) :
    s.shared.state = .connected := by
  have hlow : 3 ≤ s.shared.state.stage := ((knowsOpening h).at hpc).stage
  have hbound := opened_bound (n := fun sh => min 1 (sh.state.stage - 3))
    (f := Pc.isOpened) rfl
    (fun _ => id) (fun _ _ => rfl) (fun _ _ _ _ _ hm _ hs' => hm.loggingIn_le hs') h
  have hcount : 1 ≤ s.threads.countP Pc.isOpened := Pool.toNat_le_countP Pc.isOpened hpc
  have hle := Bool.toNat_le s.shared.socket.openedRaised
  have hstage : s.shared.state.stage = 3 := by omega
  exact ConnectionState.eq_of_stage_eq (t := .connected) hstage (by decide)

/-- A callback in turn does not throw, and it goes on until the client is logging in. -/
theorem opened_move {sh' : Shared} {pc' : Pc} (h : (system cfg).Reachable (Undisturbed cfg) s)
    (hturn : OpenedInTurn s i (.opened pc)) (hpc : s.threads[i]? = some (.opened pc))
    (hm : Move cfg i s.shared (.opened pc) sh' pc') :
    (∀ e, sh'.log ≠ .threw i e :: s.shared.log) ∧
      (pc'.isOpened = true ∨ 4 ≤ sh'.state.stage) := by
  have hopen := (knowsOpening h).shared.not_terminal
  cases hm with
  | openedMarks => exact ⟨fun e hlog => List.cons_ne_self _ _ hlog.symm, .inl rfl⟩
  | openedConnects => exact ⟨fun e hlog => (by cases hlog), .inl rfl⟩
  | openedTolerates _ hs => exact absurd (.inl hs) hopen
  | openedThrows _ hs =>
    rcases connecting_of_early h hpc with hinit | hconnecting
    · exact absurd hinit (hturn rfl)
    · exact absurd hconnecting hs
  | loginSent => exact ⟨fun e hlog => (by cases hlog), .inl rfl⟩
  | loginThrows stamp cause hcause =>
    have hencodes : LoginEncodes cfg stamp := ((knowsOpening h).at hpc).encodes stamp rfl
    rw [LoginEncodes, hcause] at hencodes
    cases hencodes
  | loggingIn => exact ⟨fun e hlog => (by cases hlog), .inr (Nat.le_refl 4)⟩
  | loggingInTolerates hs => exact absurd (.inl hs) hopen
  | loggingInThrows hs => exact absurd (connected_of_late h hpc) hs

/-- Once `Opened` was raised, the client is logging in, or the callback is still in progress. -/
lemma opened_pending
    (h : (system cfg).Reachable (fun s l => Undisturbed cfg s l ∧ WhenMoving OpenedInTurn s l) s) :
    s.Pending (fun sh => sh.socket.openedRaised = true → 4 ≤ sh.state.stage) Pc.isOpened := by
  refine h.invariant_of (J := (system cfg).Reachable (Undisturbed cfg))
    (I := fun t => t.Pending (fun sh => sh.socket.openedRaised = true → 4 ≤ sh.state.stage)
      Pc.isOpened)
    (fun t ht => ht.mono fun _ _ hl => hl.1) (.inl fun hraised => by cases hraised)
    fun s l s' hreach hs hl hstep => ?_
  refine pending_step hs hstep ?_ ?_
  · rintro e rfl hD
    cases e with
    | opened => exact .inr rfl
    | error | closed | dataReceived => exact .inl hD
  · intro i pc sh' pc' hi hpc hm hdue
    by_cases hopened : pc.isOpened = true
    · cases pc with
      | opened pc =>
        have hturn := hl.2 i hi _ hpc
        exact (opened_move hreach hturn hpc hm).2.symm.imp_left fun hstage _ => hstage
      | _ => cases hopened
    · refine .inl fun hraised => ?_
      rw [hm.openedRaised] at hraised
      exact Nat.le_trans (hdue.resolve_right hopened hraised) hm.progress.stage

/-- Opening the socket starts the login if `OnSocketOpened` only looks at `State` once `Connect()`
has moved it on from `INITIALIZING`. -/
theorem openingLogsIn (cfg : Config) :
    OpeningLogsIn cfg fun s l => Undisturbed cfg s l ∧ WhenMoving OpenedInTurn s l where
  not_threw s l s' i pc e h hl hstep hi hpc := by
    have hreach := h.mono fun _ _ hl => hl.1
    rcases step_cases hstep with ⟨c, rfl, -⟩ | ⟨e', rfl, -, -⟩ |
      ⟨j, pcj, sh', pc', hj, hpcj, hm, rfl⟩
    · cases hi
    · cases hi
    · rw [hi] at hj
      cases hj
      rw [hpc] at hpcj
      cases hpcj
      exact (opened_move hreach (hl.2 i hi _ hpc) hpc hm).1 e
  logs_in s h hraised hfinished := by
    have hreach := h.mono fun _ _ hl => hl.1
    have hstage := (opened_pending h).settled hfinished hraised
    have hopen := (knowsOpening hreach).shared.not_terminal
    have hlife := (lifecycle hreach).shared
    have hstate : s.shared.state = .loggingIn ∨ s.shared.state = .loggedIn := by
      by_cases hfive : 5 ≤ s.shared.state.stage
      · exact .inr ((ConnectionState.five_le_stage_iff.mp hfive).resolve_right hopen)
      · left
        have hfour : s.shared.state.stage = 4 := by omega
        exact ConnectionState.eq_of_stage_eq (t := .loggingIn) hfour (by decide)
    have hlogin : s.shared.log.any Event.isLoginMessage = true := by
      rcases hstate with hstate | hstate
      · exact hlife.loggingIn hstate
      · exact hlife.login (hlife.loggedIn hstate)
    have hpos : 0 < s.shared.log.countP Event.isLoginMessage :=
      List.countP_pos_iff.mpr (List.any_eq_true.mp hlogin)
    exact ⟨Nat.le_antisymm (login_le_one hreach) hpos, hstate⟩

end AsyncGDSClient

namespace Scenario

/-- The socket opens before the thread of `Connect()` has taken its last step before the wait, and
the callback comes first. -/
def openingEarly : List Label :=
  .call .connect :: steps 4 0 ++ .raise (.opened stamp) :: steps 2 1 ++ steps 1 0

end Scenario

open Scenario in
/-- The callback finds `INITIALIZING` and throws: no login message is sent, and the client is left
at `CONNECTING`. -/
theorem AsyncGDSClient.not_openingLogsIn :
    ¬ OpeningLogsIn cfg fun s l => SocketRule s l ∧ Undisturbed cfg s l := by
  intro hclaim
  have hrun : ∃ s, (system cfg).Reachable (fun s l => SocketRule s l ∧ Undisturbed cfg s l) s ∧
      s.shared.socket.openedRaised = true ∧ (∀ q ∈ s.threads, q.isOpened = false) ∧
      s.shared.log.countP Event.isLoginMessage = 0 ∧ s.shared.state = .connecting :=
    System.exists_reachable openingEarly (by decide +kernel)
  obtain ⟨s, hreach, hraised, hfinished, hnone, -⟩ := hrun
  have hone := (hclaim.logs_in s hreach hraised hfinished).1
  rw [hnone] at hone
  cases hone

open Scenario in
/-- The undisturbed login starts with one login message. -/
theorem AsyncGDSClient.openingLogsIn_login : ∃ s,
    (system cfg).Reachable (fun s l => Undisturbed cfg s l ∧ WhenMoving OpenedInTurn s l) s ∧
    s.shared.log.countP Event.isLoginMessage = 1 ∧
    (s.shared.state = .loggingIn ∨ s.shared.state = .loggedIn) := by
  have hrun : ∃ s,
      (system cfg).Reachable (fun s l => Undisturbed cfg s l ∧ WhenMoving OpenedInTurn s l) s ∧
      s.shared.socket.openedRaised = true ∧ ∀ q ∈ s.threads, q.isOpened = false :=
    System.exists_reachable (connecting ++ opening 1) (by decide +kernel)
  obtain ⟨s, hreach, hraised, hfinished⟩ := hrun
  exact ⟨s, hreach, (openingLogsIn cfg).logs_in s hreach hraised hfinished⟩

end Gds
