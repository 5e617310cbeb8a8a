import GdsSdk.Websocket.FailureReports
import GdsSdk.Websocket.Finishing
import GdsSdk.Websocket.LoginProgress
import GdsSdk.Websocket.Sends

/-!
# The way of a client and its outcome

`State` goes through the stages of a login in their order and skips none of them, and once it has
left this way it is `DISCONNECTED` or `FAILED` for good.  A client that has left it, or has come to
the end of it, tells its listener: of a success if it was logged in, of a failure if it has failed.
Only a client that was closed on its way tells nothing.
-/

namespace Gds

open Transition AsyncGDSClient

/-! ## The values of `State` in their order -/

/-- The values that `State` has had, newest first. -/
def stateHistory (log : List Event) : List ConnectionState :=
  log.filterMap Event.stored ++ [.notConnected]

/-- The stages of a login. -/
def ConnectionState.way : List ConnectionState :=
  [.notConnected, .initializing, .connecting, .connected, .loggingIn, .loggedIn]

/-- `State` has come to stage `n` of the way to a login and has since had the values `ends`, which
come after every way. -/
structure OnTheWay (sh : Shared) (ends : List ConnectionState) (n : ℕ) : Prop where
  history : stateHistory sh.log = ends ++ (ConnectionState.way.take (n + 1)).reverse
  terminal : ∀ value ∈ ends, value.Terminal
  stage_lt : n < ConnectionState.way.length
  newest : (stateHistory sh.log).head? = some sh.state

namespace OnTheWay

variable {sh sh' : Shared} {ends : List ConnectionState} {n : ℕ} {value : ConnectionState}

/-- What neither is stored in `State` nor changes it keeps a client where it is. -/
lemma of_eq (h : OnTheWay sh ends n) (hstate : sh'.state = sh.state)
    (hlog : stateHistory sh'.log = stateHistory sh.log) : OnTheWay sh' ends n where
  history := hlog.trans h.history
  terminal := h.terminal
  stage_lt := h.stage_lt
  newest := by
    rw [hlog, hstate]
    exact h.newest

/-- A client that has not come to its end is at the stage that it has come to. -/
lemma state_eq (h : OnTheWay sh ends n) (hstate : ¬ sh.state.Terminal) :
    ends = [] ∧ ConnectionState.way[n]? = some sh.state := by
  have hnewest := h.newest
  rw [h.history] at hnewest
  cases ends with
  | nil =>
    refine ⟨rfl, ?_⟩
    rw [List.nil_append, List.head?_reverse, List.getLast?_take] at hnewest
    simpa [h.stage_lt] using hnewest
  | cons value ends =>
    have hvalue : value = sh.state := Option.some.inj hnewest
    exact absurd (hvalue ▸ h.terminal value List.mem_cons_self) hstate

/-- The next stage is stored. -/
lemma next (h : OnTheWay sh ends n) (hnot : ¬ sh.state.Terminal)
    (hvalue : ConnectionState.way[n + 1]? = some value) (hwritten : sh'.state = value)
    (hlog : stateHistory sh'.log = value :: stateHistory sh.log) :
    OnTheWay sh' [] (n + 1) where
  history := by
    obtain ⟨rfl, -⟩ := h.state_eq hnot
    have htake : ConnectionState.way.take (n + 2) =
        ConnectionState.way.take (n + 1) ++ [value] := by
      rw [List.take_add_one, hvalue]
      rfl
    rw [hlog, h.history, htake, List.reverse_append]
    rfl
  terminal := by simp
  stage_lt := (List.getElem?_eq_some_iff.mp hvalue).1
  newest := by rw [hlog, hwritten, List.head?_cons]

/-- An end is stored. -/
lemma ended (h : OnTheWay sh ends n) (hvalue : value.Terminal) (hwritten : sh'.state = value)
    (hlog : stateHistory sh'.log = value :: stateHistory sh.log) :
    OnTheWay sh' (value :: ends) n where
  history := by rw [hlog, h.history, List.cons_append]
  terminal := List.forall_mem_cons.mpr ⟨hvalue, h.terminal⟩
  stage_lt := h.stage_lt
  newest := by rw [hlog, hwritten, List.head?_cons]

/-- The stage of a client that has not come to its end is where it is on the way. -/
lemma stage_eq (h : OnTheWay sh ends n) (hnot : ¬ sh.state.Terminal) : n = sh.state.stage := by
  obtain ⟨-, hn⟩ := h.state_eq hnot
  have hlt := h.stage_lt
  generalize sh.state = state at hn hnot
  simp only [ConnectionState.way, List.length_cons, List.length_nil] at hlt
  interval_cases n <;> cases hn <;> rfl

end OnTheWay

/-- A move leaves a client where it is on its way, or takes it one stage on, or to an end. -/
lemma Move.onTheWay {cfg : Config} {i : ℕ} {sh sh' : Shared} {pc pc' : Pc}
    (h : Move cfg i sh pc sh' pc') {ends : List ConnectionState} {n : ℕ}
    (hs : OnTheWay sh ends n) : ∃ ends' n', OnTheWay sh' ends' n' := by
  -- a compare-and-exchange stores the stage that comes after the one it expects
  have hnext : ∀ {value : ConnectionState}, ¬ sh.state.Terminal →
      ConnectionState.way[sh.state.stage + 1]? = some value → sh'.state = value →
      stateHistory sh'.log = value :: stateHistory sh.log →
      ∃ ends' n', OnTheWay sh' ends' n' := by
    intro value hnot hvalue hwritten hlog
    rw [← hs.stage_eq hnot] at hvalue
    exact ⟨[], n + 1, hs.next hnot hvalue hwritten hlog⟩
  cases h with
  | connectStarts h | connecting h | openedConnects _ h | loggingIn h | accepts _ _ _ h =>
    refine hnext ?_ ?_ rfl rfl
    · rw [h]
      decide
    · rw [h]
      rfl
  | timeoutFails | errorFails | rejects => exact ⟨_, n, hs.ended (.inr rfl) rfl rfl⟩
  | closedDisconnects | closeDisconnects => exact ⟨_, n, hs.ended (.inl rfl) rfl rfl⟩
  | _ => exact ⟨ends, n, hs.of_eq rfl rfl⟩

/-- In every run, whatever the order of steps and events: the values of `State` so far are the
first stages of the way to a login, in their order and without a gap, each of them once, followed
by ends only; and the newest of them is its value. -/
theorem AsyncGDSClient.statesInOrder {cfg : Config} {ok : Guard Client Label} {s : Client}
    (h : (system cfg).Reachable ok s) : ∃ ends n, OnTheWay s.shared ends n := by
  refine h.invariant (I := fun s => ∃ ends n, OnTheWay s.shared ends n) ?_ ?_
  · exact ⟨[], 0, rfl, by simp, by decide, rfl⟩
  · rintro s l s' ⟨ends, n, hs⟩ _ hstep
    rcases step_cases hstep with ⟨c, -, rfl⟩ | ⟨e, -, -, rfl⟩ |
      ⟨i, pc, sh', pc', -, -, hm, rfl⟩
    · exact ⟨ends, n, hs⟩
    · exact ⟨ends, n, hs.of_eq rfl rfl⟩
    · exact hm.onTheWay hs

open Scenario in
/-- The values of `State` in an undisturbed login. -/
theorem AsyncGDSClient.statesInOrder_login : ∃ s ends n,
    (system cfg).Reachable Unrestricted s ∧ s.shared.state = .loggedIn ∧
    OnTheWay s.shared ends n := by
  have hrun : ∃ s, (system cfg).Reachable Unrestricted s ∧ s.shared.state = .loggedIn :=
    System.exists_reachable login (by decide +kernel)
  obtain ⟨s, hreach, hstate⟩ := hrun
  obtain ⟨ends, n, hway⟩ := statesInOrder hreach
  exact ⟨s, ends, n, hreach, hstate, hway⟩

/-! ## What the listener is told -/

/-- The listener was told of every success. -/
def SuccessTold (sh : Shared) : Prop := sh.Entered .loggedIn → sh.log.any Event.isSuccess = true

/-- The listener was told of every failure. -/
def FailureTold (sh : Shared) : Prop := sh.Entered .failed → sh.log.any Event.isFailure = true

/-- A client that is disconnected was logged in, or `Close()` ran to its end. -/
def CloseKnown (sh : Shared) : Prop :=
  sh.state = .disconnected → sh.Entered .loggedIn ∨ sh.log.any Event.isCloseReturned = true

/-- The thread of `Connect()` that has brought the client on its way has come to its end. -/
def ConnectKnown (sh : Shared) : Prop :=
  1 ≤ sh.state.stage → sh.state.stage ≤ 5 → sh.log.any Event.isConnectFinished = true

/-- `Close()` has made its write, or is about to return. -/
def Pc.isCloseLate : Pc → Bool
  | .close _ pc => pc.isLate
  | _ => false

/-- Between the compare-and-exchange of `Connect()` and the end of its thread. -/
def Pc.isOnItsWay : Pc → Bool
  | .connect .compareExchange => false
  | .connect _ => true
  | _ => false

namespace Move

variable {cfg : Config} {i : ℕ} {sh sh' : Shared} {pc pc' : Pc}

/-- A login is told by the handler that accepts it. -/
lemma successTold (h : Move cfg i sh pc sh' pc') (hdue : SuccessTold sh ∨ pc.isSuccess = true) :
    SuccessTold sh' ∨ pc'.isSuccess = true := by
  cases h with
  | accepts => exact .inr rfl
  | successReported => exact .inl fun _ => rfl
  | _ =>
    refine .inl fun hentered => ?_
    rcases hdue with htold | hsuccess
    · exact htold hentered
    · cases hsuccess

/-- A failure is told by the thread that records it. -/
lemma failureTold (h : Move cfg i sh pc sh' pc') (hdue : FailureTold sh ∨ pc.isReporting = true) :
    FailureTold sh' ∨ pc'.isReporting = true := by
  cases h with
  | timeoutFails | errorFails | rejects => exact .inr rfl
  | timeoutReported | errorReported | closedReported | rejectionReported => exact .inl fun _ => rfl
  | closeFindsFailed | closeFindsNotFailed | closeDisconnects | closeMarks => exact hdue
  | closeReturns caller =>
    cases caller with
    | rejection => exact .inr rfl
    | user | dispose => exact hdue.imp_right fun hreporting => by cases hreporting
  | _ =>
    refine .inl fun hentered => ?_
    rcases hdue with htold | hreporting
    · exact htold hentered
    · cases hreporting

/-- A client is disconnected by a close, or after its login. -/
lemma closeKnown (h : Move cfg i sh pc sh' pc') (hloggedIn : sh.state = .loggedIn →
    sh.Entered .loggedIn) (hdue : CloseKnown sh ∨ pc.isCloseLate = true) :
    CloseKnown sh' ∨ pc'.isCloseLate = true := by
  cases h with
  | closeDisconnects | closeMarks => exact .inr rfl
  | closeFindsFailed => exact .inr rfl
  | closeReturns => exact .inl fun _ => .inr rfl
  | closedDisconnects hs => exact .inl fun _ => .inl (hloggedIn hs)
  | connectStarts | connecting | timeoutFails | openedConnects | loggingIn | errorFails | rejects
  | accepts => exact .inl fun hs => by cases hs
  | _ =>
    refine .inl fun hs => ?_
    rcases hdue with hknown | hlate
    · exact hknown hs
    · cases hlate

/-- What is in `State` was stored there. -/
lemma entered_state (h : Move cfg i sh pc sh' pc')
    (hs : sh.state ≠ .notConnected → sh.Entered sh.state) :
    sh'.state ≠ .notConnected → sh'.Entered sh'.state := by
  cases h with
  | connectStarts | connecting | openedConnects | loggingIn | timeoutFails | errorFails | rejects
  | closedDisconnects | closeDisconnects => exact fun _ => rfl
  | accepts =>
    intro _
    simp [Shared.Entered, Event.isState]
  | _ => simpa [Shared.Entered, Event.isState] using hs

/-- A client is brought on its way by `Connect()`. -/
lemma connectKnown (h : Move cfg i sh pc sh' pc')
    (hdue : ConnectKnown sh ∨ pc.isOnItsWay = true) :
    ConnectKnown sh' ∨ pc'.isOnItsWay = true := by
  cases h with
  | connectStarts | connectReturns | subscribes | opens | connecting | notConnecting | waitExpires
  | timeoutDue | timeoutFails => exact .inr rfl
  | waitEnds | waitAborts | timeoutVoid | timeoutReported => exact .inl fun _ _ => rfl
  | openedConnects _ hs | loggingIn hs | accepts _ _ _ hs =>
    refine .inl fun _ _ => ?_
    rcases hdue with hknown | hconnecting
    · exact hknown (by simp [hs, ConnectionState.stage]) (by simp [hs, ConnectionState.stage])
    · cases hconnecting
  | errorFails | closedDisconnects | rejects | closeDisconnects =>
    refine .inl fun _ hle => ?_
    simp [ConnectionState.stage] at hle
  | _ =>
    refine .inl fun hpos hle => ?_
    rcases hdue with hknown | hconnecting
    · exact hknown hpos hle
    · cases hconnecting

end Move

namespace AsyncGDSClient

variable {cfg : Config} {ok : Guard Client Label} {s : Client}

/-- What a step of a run settles or leaves to a thread is settled or left to one in every run. -/
lemma reachable_pending {D : Shared → Prop} {f : Pc → Bool} (hinit : D Shared.init)
    (hraise : ∀ (sh : Shared) (e : SocketEvent), D sh → D (sh.raise e))
    (hmove : ∀ (s : Client) i pc sh' pc', (system cfg).Reachable ok s →
      Move cfg i s.shared pc sh' pc' → D s.shared ∨ f pc = true → D sh' ∨ f pc' = true)
    (h : (system cfg).Reachable ok s) : s.Pending D f := by
  refine h.invariant_of (J := fun s => (system cfg).Reachable ok s) (I := fun s => s.Pending D f)
    (fun s hs => hs) (.inl hinit) fun s l s' hreach hs _ hstep => ?_
  refine pending_step hs hstep (fun e _ hD => .inl (hraise s.shared e hD)) ?_
  exact fun i pc sh' pc' _ _ hm hdue => hmove s i pc sh' pc' hreach hm hdue

/-- The listener was told of the login, or its handler is about to tell. -/
lemma success_pending (h : (system cfg).Reachable ok s) :
    s.Pending SuccessTold Pc.isSuccess :=
  reachable_pending (fun hentered => by cases hentered) (fun _ _ hD => hD)
    (fun _ _ _ _ _ _ hm => hm.successTold) h

/-- The listener was told of the failure, or the thread that has recorded it is about to tell. -/
lemma failure_pending (h : (system cfg).Reachable ok s) :
    s.Pending FailureTold Pc.isReporting :=
  reachable_pending (fun hentered => by cases hentered) (fun _ _ hD => hD)
    (fun _ _ _ _ _ _ hm => hm.failureTold) h

/-- A client that is disconnected was logged in or closed, or a close is about to return. -/
lemma close_pending (h : (system cfg).Reachable ok s) : s.Pending CloseKnown Pc.isCloseLate :=
  reachable_pending (fun hs => by cases hs) (fun _ _ hD => hD)
    (fun _ _ _ _ _ hreach hm => hm.closeKnown (lifecycle hreach).shared.loggedIn) h

/-- The thread of `Connect()` has come to its end, or is on its way. -/
lemma connect_pending (h : (system cfg).Reachable ok s) :
    s.Pending ConnectKnown Pc.isOnItsWay :=
  reachable_pending (fun hpos => by cases hpos) (fun _ _ hD => hD)
    (fun _ _ _ _ _ _ hm => hm.connectKnown) h

/-- The value of `State` was stored at some time, if it is not the first. -/
lemma entered_state (h : (system cfg).Reachable ok s) (hs : s.shared.state ≠ .notConnected) :
    s.shared.Entered s.shared.state := by
  refine h.invariant (I := fun s => s.shared.state ≠ .notConnected →
    s.shared.Entered s.shared.state) (fun hne => absurd rfl hne) ?_ hs
  intro s l s' hs _ hstep
  rcases step_cases hstep with ⟨c, -, rfl⟩ | ⟨e, -, -, rfl⟩ | ⟨i, pc, sh', pc', -, -, hm, rfl⟩
  · exact hs
  · exact hs
  · exact hm.entered_state hs

/-- In every run in which no acknowledgement is handled before `State` is `LOGGING_IN`: a client
that was used and in which nothing is in progress any more has told its listener of a success or of
a failure, unless it was closed before the one or the other. -/
theorem outcomeReported (h : (system cfg).Reachable (WhenMoving AckInTurn) s)
    (hdone : ∀ pc ∈ s.threads, pc = .done) (hs : s.shared.state ≠ .notConnected) :
    s.shared.log.any Event.isSuccess = true ∨ s.shared.log.any Event.isFailure = true ∨
      s.shared.state = .disconnected ∧ s.shared.log.any Event.isCloseReturned = true := by
  have hnone : ∀ f : Pc → Bool, f .done = false → ∀ pc ∈ s.threads, f pc = false := by
    intro f hf pc hpc
    rw [hdone pc hpc, hf]
  have hsuccess : SuccessTold s.shared := (success_pending h).settled (hnone _ rfl)
  have hfailure : FailureTold s.shared := (failure_pending h).settled (hnone _ rfl)
  have hclose : CloseKnown s.shared := (close_pending h).settled (hnone _ rfl)
  have hconnect : ConnectKnown s.shared := (connect_pending h).settled (hnone _ rfl)
  have hentered := entered_state h hs
  -- the client has not stopped on its way
  have hstage : 5 ≤ s.shared.state.stage := by
    by_contra hlt
    have hpos : 1 ≤ s.shared.state.stage := by
      refine Nat.pos_of_ne_zero fun hzero => hs ?_
      exact ConnectionState.eq_of_stage_eq (t := .notConnected) hzero (by decide)
    have hquiet : Quiet s := by
      intro pc hpc
      rw [hdone pc hpc]
      exact ⟨rfl, rfl⟩
    have hsettled : s.shared.state = .loggedIn ∨ s.shared.state.Terminal := by
      rcases finishedInTurn h (hconnect hpos (by omega)) with hfive | hended
      · exact ConnectionState.five_le_stage_iff.mp hfive
      · exact settled_of_ended h hquiet hended
    exact hlt (ConnectionState.five_le_stage_iff.mpr hsettled)
  rcases ConnectionState.five_le_stage_iff.mp hstage with hstate | hstate | hstate
  · rw [hstate] at hentered
    exact .inl (hsuccess hentered)
  · rcases hclose hstate with hloggedIn | hreturned
    · exact .inl (hsuccess hloggedIn)
    · exact .inr (.inr ⟨hstate, hreturned⟩)
  · rw [hstate] at hentered
    exact .inr (.inl (hfailure hentered))

end AsyncGDSClient

open Scenario in
/-- The wait of `Connect()` expires, and the listener is told. -/
theorem AsyncGDSClient.outcomeReported_timeout : ∃ s,
    (system cfg).Reachable (WhenMoving AckInTurn) s ∧ s.shared.state = .failed ∧
    (s.shared.log.any Event.isSuccess = true ∨ s.shared.log.any Event.isFailure = true) := by
  have hrun : ∃ s, (system cfg).Reachable (WhenMoving AckInTurn) s ∧
      (∀ pc ∈ s.threads, pc.rank = 0) ∧ s.shared.state = .failed :=
    System.exists_reachable (connecting ++ opening 1 ++ [.expire 0] ++ steps 3 0)
      (by decide +kernel)
  obtain ⟨s, hreach, hdone, hstate⟩ := hrun
  have hused : s.shared.state ≠ .notConnected := by
    rw [hstate]
    decide
  rcases outcomeReported hreach (fun pc hpc => Pc.rank_eq_zero.mp (hdone pc hpc)) hused with
    hsuccess | hfailure | ⟨hclosed, -⟩
  · exact ⟨s, hreach, hstate, .inl hsuccess⟩
  · exact ⟨s, hreach, hstate, .inr hfailure⟩
  · rw [hstate] at hclosed
    cases hclosed

end Gds
