import GdsSdk.Websocket.SingleUse

/-!
# No login is left hanging

Once the thread of `Connect()` has finished and nothing else is in progress, a client should be
logged in or have come to its end.  It is not when an acknowledgement overtakes the
compare-and-exchange that follows the send of the login message: its handler has signalled the
countdown, so that the wait of `Connect()` is over, and then throws because `State` is still
`CONNECTED`.  If no acknowledgement is handled before `State` is `LOGGING_IN`, every login comes
to an end, and a positive acknowledgement is not lost.

The invariants say what is settled already or is left to a thread (`Pool.Pending`): a countdown
that was signalled to the handler of the acknowledgement, a disposed one to the `Close()` of
`Dispose()`.
-/

namespace Gds

open Transition AsyncGDSClient

/-- A call of `Close()` or `Dispose()` is in progress. -/
def Pc.isClosing : Pc → Bool
  | .close _ _ | .dispose _ => true
  | _ => false

/-- Neither a callback nor a call of `Close()` or `Dispose()` is in progress. -/
def Quiet (s : Client) : Prop := ∀ q ∈ s.threads, q.isCallback = false ∧ q.isClosing = false

instance (s : Client) : Decidable (Quiet s) := inferInstanceAs (Decidable (∀ _ ∈ _, _))

/-- A positive acknowledgement was received after the login message had been sent. -/
def ackAfterLogin : List Event → Bool
  | [] => false
  | .acknowledged _ ackData :: older =>
    (decide (ackData.status = .ok) && older.any Event.isLoginMessage) || ackAfterLogin older
  | _ :: older => ackAfterLogin older

/-- A step of an error, of a close, or of the thread of `Connect()` behind a wait that timed
out. -/
def Pc.isDisturbance : Pc → Bool
  | .error _ | .closed _ | .close _ _ | .dispose _ | .connect .readState | .connect .writeFailed
  | .connect .onConnectionFailure => true
  | _ => false

/-- A run without close, error or timeout: none of them takes a step. -/
def Calm : Guard Client Label := WhenMoving fun _ _ pc => pc.isDisturbance = false

instance (s : Client) (l : Label) : Decidable (Calm s l) :=
  inferInstanceAs (Decidable (WhenMoving (fun _ _ pc => pc.isDisturbance = false) s l))

/-- No login is left hanging. -/
structure NoLoginHangs (cfg : Config) (ok : Guard Client Label) : Prop where
  /-- Once the thread of `Connect()` has finished and nothing is in progress, the client is logged
  in or has come to its end. -/
  settles : ∀ s, (system cfg).Reachable ok s →
    s.shared.log.any Event.isConnectFinished = true → Quiet s →
    s.shared.state = .loggedIn ∨ s.shared.state = .disconnected ∨ s.shared.state = .failed
  /-- A positive acknowledgement is not lost in a run without close, error or timeout. -/
  ack_kept : ∀ s, (system cfg).Reachable (fun s l => ok s l ∧ Calm s l) s →
    ackAfterLogin s.shared.log = true → Quiet s → s.shared.state = .loggedIn

/-- The handler of an acknowledgement is about to look at `State`. -/
def Pc.isAnswering : Pc → Bool
  | .received (.compareExchange _ _) => true
  | _ => false

/-- The handler of an acknowledgement only looks at `State` once it is `LOGGING_IN`, or later. -/
def AckInTurn (s : Client) (_ : ℕ) (pc : Pc) : Prop :=
  pc.isAnswering = true → 4 ≤ s.shared.state.stage

instance (s : Client) (i : ℕ) (pc : Pc) : Decidable (AckInTurn s i pc) :=
  inferInstanceAs (Decidable (_ → _))

/-- The handler of an acknowledgement is about to signal the countdown. -/
def Pc.isSignalling : Pc → Bool
  | .received (.signal _ _) => true
  | _ => false

/-- `Dispose()` has disposed of the countdown, and its `Close()` is not yet behind its write. -/
def Pc.isDisposing : Pc → Bool
  | .close .dispose pc => !pc.isLate
  | _ => false

/-- The client is logged in or at its end if the countdown has counted down. -/
def CountSettled (sh : Shared) : Prop := sh.countdown.currentCount = 0 → 5 ≤ sh.state.stage

/-- The client is logged in or at its end if the countdown was disposed of. -/
def DisposeSettled (sh : Shared) : Prop := sh.countdown.disposed = true → 5 ≤ sh.state.stage

/-- The countdown has counted down or was disposed of if an acknowledgement was received. -/
def AckSignalled (sh : Shared) : Prop :=
  sh.log.any Event.isAcknowledged = true →
    sh.countdown.currentCount = 0 ∨ sh.countdown.disposed = true

/-- The thread of `Connect()` does not finish before the client is logged in or at its end, unless
its wait was ended. -/
def FinishedInTurn (sh : Shared) : Prop :=
  sh.log.any Event.isConnectFinished = true →
    5 ≤ sh.state.stage ∨ sh.countdown.currentCount = 0 ∨ sh.countdown.disposed = true

/-! ## What a quiet client rules out -/

/-- A thread that answers an acknowledgement is a callback. -/
lemma Pc.not_isAnswering {pc : Pc} (h : pc.isCallback = false) : pc.isAnswering = false := by
  unfold isAnswering
  split
  · cases h
  · rfl

lemma Pc.not_isSignalling {pc : Pc} (h : pc.isCallback = false) : pc.isSignalling = false := by
  unfold isSignalling
  split
  · cases h
  · rfl

lemma Pc.not_isDisposing {pc : Pc} (h : pc.isClosing = false) : pc.isDisposing = false := by
  unfold isDisposing
  split
  · cases h
  · rfl

/-- Every step of a close is a disturbance. -/
lemma Pc.isDisturbance_of_isClosing {pc : Pc} (h : pc.isClosing = true) :
    pc.isDisturbance = true := by
  unfold isClosing at h
  split at h
  · rfl
  · rfl
  · cases h

/-- An acknowledgement that came after the login message was received. -/
lemma isAcknowledged_of_ackAfterLogin {log : List Event} (h : ackAfterLogin log = true) :
    log.any Event.isAcknowledged = true := by
  induction log with
  | nil => cases h
  | cons e log ih =>
    rw [List.any_cons, Bool.or_eq_true]
    cases e with
    | acknowledged => exact .inl rfl
    | _ => exact .inr (ih h)

/-! ## What a move does to them -/

namespace Move

variable {cfg : Config} {i : ℕ} {sh sh' : Shared} {pc pc' : Pc}

/-- A handler that has signalled the countdown is about to look at `State`, and when it does, a
client that is logging in is logged in or fails. -/
lemma countSettled (h : Move cfg i sh pc sh' pc')
    (hguard : pc.isAnswering = true → 4 ≤ sh.state.stage)
    (hdue : CountSettled sh ∨ pc.isAnswering = true) :
    CountSettled sh' ∨ pc'.isAnswering = true := by
  have hstage := h.progress.stage
  cases h with
  | signals => exact .inr rfl
  | accepts | rejects =>
    refine .inl fun _ => ?_
    simp [ConnectionState.stage]
  | ackOutOfTurn _ _ hs =>
    refine .inl fun _ => ?_
    have hlogging : sh.state.stage ≠ 4 := fun h4 =>
      hs (ConnectionState.eq_of_stage_eq (t := .loggingIn) h4 (by decide))
    have := hguard rfl
    omega
  | _ =>
    refine .inl fun hcount => ?_
    rcases hdue with hsettled | hanswering
    · exact Nat.le_trans (hsettled hcount) hstage
    · cases hanswering

/-- `Dispose()` goes on to `Close()`, which brings the client to its end. -/
lemma disposeSettled (h : Move cfg i sh pc sh' pc')
    (hdue : DisposeSettled sh ∨ pc.isDisposing = true) :
    DisposeSettled sh' ∨ pc'.isDisposing = true := by
  have hstage := h.progress.stage
  cases h with
  | disposesCountdown => exact .inr rfl
  | closeFindsFailed _ hs =>
    refine .inl fun _ => ?_
    rw [hs]
    decide
  | closeDisconnects => exact .inl fun _ => by simp [ConnectionState.stage]
  | closeFindsNotFailed caller =>
    refine hdue.imp_right fun hdisposing => ?_
    cases caller with
    | dispose => rfl
    | user | rejection => cases hdisposing
  | closeMarks caller | closeReturns caller =>
    refine .inl fun hdisposed => ?_
    rcases hdue with hsettled | hdisposing
    · exact hsettled hdisposed
    · cases caller <;> cases hdisposing
  | _ =>
    refine .inl fun hdisposed => ?_
    rcases hdue with hsettled | hdisposing
    · exact Nat.le_trans (hsettled hdisposed) hstage
    · cases hdisposing

/-- The handler of an acknowledgement signals the countdown, unless that is not possible any
more. -/
lemma ackSignalled (h : Move cfg i sh pc sh' pc') (hcount : sh.countdown.currentCount ≤ 1)
    (hdue : AckSignalled sh ∨ pc.isSignalling = true) :
    AckSignalled sh' ∨ pc'.isSignalling = true := by
  cases h with
  | receivedAck => exact .inr rfl
  | signals =>
    refine .inl fun _ => .inl ?_
    simp only
    omega
  | signalThrows _ _ _ hs => exact .inl fun _ => hs
  | disposesCountdown => exact .inl fun _ => .inr rfl
  | _ =>
    -- what the move records, if anything, is no acknowledgement
    refine .inl fun hack => ?_
    rcases hdue with hsignalled | hsignalling
    · exact hsignalled hack
    · cases hsignalling

/-- The thread of `Connect()` finishes when its wait was ended, or at the end. -/
lemma finishedInTurn (h : Move cfg i sh pc sh' pc') (hI : FinishedInTurn sh)
    (hpc : pc.atEnd = true → sh.state.Terminal) : FinishedInTurn sh' := by
  intro hfinished
  have hstage := h.progress.stage
  cases h with
  | waitEnds hcount => exact .inr (.inl hcount)
  | waitAborts hdisposed => exact .inr (.inr hdisposed)
  | timeoutVoid hs => exact .inl (ConnectionState.five_le_stage_iff.mpr (.inr hs))
  | timeoutReported => exact .inl (ConnectionState.five_le_stage_iff.mpr (.inr (hpc rfl)))
  | signals =>
    rcases hI hfinished with hs | hcount | hdisposed
    · exact .inl hs
    · refine .inr (.inl ?_)
      simp only
      omega
    · exact .inr (.inr hdisposed)
  | disposesCountdown => exact .inr (.inr rfl)
  | _ =>
    -- the history already had the end of `Connect()`
    rcases hI hfinished with hs | hended
    · exact .inl (Nat.le_trans hs hstage)
    · exact .inr hended

/-- In a calm run a client only comes to its end by a rejected login, whose handler goes on to
`Close()`. -/
lemma not_terminal (h : Move cfg i sh pc sh' pc') (hcalm : pc.isDisturbance = false)
    (hs : ¬ sh.state.Terminal) : ¬ sh'.state.Terminal ∨ pc'.isClosing = true := by
  cases h with
  | rejects => exact .inr rfl
  | connectStarts | connecting | openedConnects | loggingIn | accepts =>
    exact .inl (by simp [ConnectionState.Terminal])
  | timeoutFails | errorFails | closedDisconnects | closeDisconnects => cases hcalm
  | _ => exact .inl hs

end Move

namespace AsyncGDSClient

variable {cfg : Config} {ok : Guard Client Label} {s s' : Client} {l : Label}

/-- When the countdown has counted down, the client is logged in or at its end, or the handler of
the acknowledgement is about to look at `State`. -/
lemma count_pending (h : (system cfg).Reachable (WhenMoving AckInTurn) s) :
    s.Pending CountSettled Pc.isAnswering := by
  refine h.invariant (.inl fun hcount => by cases hcount) fun s l s' hs hl hstep => ?_
  exact pending_step hs hstep (fun e _ => .inl) fun i pc sh' pc' hi hpc hm =>
    hm.countSettled (hl i hi pc hpc)

/-- When the countdown was disposed of, the client is logged in or at its end, or `Dispose()` is
about to close it. -/
lemma dispose_pending (h : (system cfg).Reachable ok s) :
    s.Pending DisposeSettled Pc.isDisposing := by
  refine h.invariant (.inl fun hdisposed => by cases hdisposed) fun s l s' hs _ hstep => ?_
  exact pending_step hs hstep (fun e _ => .inl) fun i pc sh' pc' _ _ hm => hm.disposeSettled

/-- When an acknowledgement was received, the countdown was ended, or its handler is about to. -/
lemma ack_pending (h : (system cfg).Reachable ok s) :
    s.Pending AckSignalled Pc.isSignalling := by
  refine h.invariant_of (J := fun t => t.Annotated Lifecycle (Knows cfg))
    (I := fun t => t.Pending AckSignalled Pc.isSignalling) (fun t ht => lifecycle ht)
    (.inl fun hack => by cases hack) fun s l s' hlife hs _ hstep => ?_
  exact pending_step hs hstep (fun e _ => .inl) fun i pc sh' pc' _ _ hm =>
    hm.ackSignalled hlife.shared.count

/-- The thread of `Connect()` finishes in turn. -/
lemma finishedInTurn (h : (system cfg).Reachable ok s) : FinishedInTurn s.shared := by
  refine h.invariant_of (J := fun t => t.Annotated Lifecycle (Knows cfg))
    (I := fun t => FinishedInTurn t.shared) (fun t ht => lifecycle ht)
    (fun hfinished => by cases hfinished) fun s l s' hlife hs _ hstep => ?_
  rcases step_cases hstep with ⟨c, -, rfl⟩ | ⟨e, -, -, rfl⟩ | ⟨i, pc, sh', pc', -, hpc, hm, rfl⟩
  · exact hs
  · exact hs
  · exact hm.finishedInTurn hs (hlife.at hpc).atEnd

/-- In a calm run a client has not come to its end, or it is about to be closed. -/
lemma calm_pending (h : (system cfg).Reachable Calm s) :
    s.Pending (fun sh => ¬ sh.state.Terminal) Pc.isClosing := by
  have hinit : ¬ (system cfg).init.shared.state.Terminal := by
    simp [system, Shared.init, ConnectionState.Terminal]
  refine h.invariant (.inl hinit) fun s l s' hs hl hstep => ?_
  refine pending_step hs hstep (fun e _ => .inl) fun i pc sh' pc' hi hpc hm hdue => ?_
  have hcalm : pc.isDisturbance = false := hl i hi pc hpc
  rcases hdue with hnot | hclosing
  · exact hm.not_terminal hcalm hnot
  · rw [Pc.isDisturbance_of_isClosing hclosing] at hcalm
    cases hcalm

/-- When nothing is in progress, a wait that was ended has left the client logged in or at its
end. -/
lemma settled_of_ended (h : (system cfg).Reachable (WhenMoving AckInTurn) s) (hquiet : Quiet s)
    (hended : s.shared.countdown.currentCount = 0 ∨ s.shared.countdown.disposed = true) :
    s.shared.state = .loggedIn ∨ s.shared.state.Terminal := by
  rw [← ConnectionState.five_le_stage_iff]
  rcases hended with hcount | hdisposed
  · exact (count_pending h).settled (fun q hq => Pc.not_isAnswering (hquiet q hq).1) hcount
  · exact (dispose_pending h).settled (fun q hq => Pc.not_isDisposing (hquiet q hq).2) hdisposed

/-- No login is left hanging if the handlers of acknowledgements only look at `State` once it is
`LOGGING_IN` or later. -/
theorem noLoginHangs (cfg : Config) : NoLoginHangs cfg (WhenMoving AckInTurn) where
  settles s h hfinished hquiet := by
    rcases finishedInTurn h hfinished with hstage | hended
    · exact ConnectionState.five_le_stage_iff.mp hstage
    · exact settled_of_ended h hquiet hended
  ack_kept s h hack hquiet := by
    have hinTurn := h.mono fun _ _ hl => hl.1
    have hended := (ack_pending h).settled (fun q hq => Pc.not_isSignalling (hquiet q hq).1)
      (isAcknowledged_of_ackAfterLogin hack)
    have hnot := (calm_pending (h.mono fun _ _ hl => hl.2)).settled fun q hq => (hquiet q hq).2
    exact (settled_of_ended hinTurn hquiet hended).resolve_right hnot

end AsyncGDSClient

namespace Scenario

/-- The acknowledgement is received and handled between the send of the login message and the
compare-and-exchange after it. -/
def overtaking : List Label :=
  connecting ++ [.raise (.opened stamp)] ++ steps 3 1 ++ acknowledging 2 ++ steps 1 1 ++ steps 1 0

end Scenario

open Scenario in
/-- An acknowledgement overtakes the compare-and-exchange to `LOGGING_IN`: the wait of `Connect()`
is over, and the client is left at `LOGGING_IN`. -/
theorem AsyncGDSClient.not_noLoginHangs : ¬ NoLoginHangs cfg SocketRule := by
  intro hclaim
  have hrun : ∃ s, (system cfg).Reachable (fun s l => SocketRule s l ∧ Calm s l) s ∧
      s.shared.log.any Event.isConnectFinished = true ∧ ackAfterLogin s.shared.log = true ∧
      Quiet s ∧ s.shared.state = .loggingIn :=
    System.exists_reachable overtaking (by decide +kernel)
  obtain ⟨s, hreach, -, hack, hquiet, hs⟩ := hrun
  have hloggedIn := hclaim.ack_kept s hreach hack hquiet
  rw [hs] at hloggedIn
  cases hloggedIn

open Scenario in
/-- The undisturbed login comes to its end. -/
theorem AsyncGDSClient.noLoginHangs_login : ∃ s,
    (system cfg).Reachable (WhenMoving AckInTurn) s ∧
    s.shared.log.any Event.isConnectFinished = true ∧ s.shared.state = .loggedIn := by
  have hrun : ∃ s,
      (system cfg).Reachable (fun s l => WhenMoving AckInTurn s l ∧ Calm s l) s ∧
      s.shared.log.any Event.isConnectFinished = true ∧ ackAfterLogin s.shared.log = true ∧
      Quiet s :=
    System.exists_reachable login (by decide +kernel)
  obtain ⟨s, hreach, hfinished, hack, hquiet⟩ := hrun
  exact ⟨s, hreach.mono fun _ _ hl => hl.1, hfinished,
    (noLoginHangs cfg).ack_kept s hreach hack hquiet⟩

end Gds
