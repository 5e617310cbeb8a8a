import GdsSdk.Websocket.Moves

/-!
# The life of a client

Invariants of all runs, whatever the order of steps and events: `State` only moves forward, a
client connects at most once, and it is logged in at most once, by an acknowledgement that comes
after its login message.  `Lifecycle` collects what the threads know at their program points;
the guarantees of the other files build on it.
-/

namespace Gds

open Transition

/-! ## What no step undoes -/

/-- The shared state may have moved on from `sh` to `sh'`. -/
structure Progress (sh sh' : Shared) : Prop where
  /-- `State` does not go back to an earlier stage. -/
  stage : sh.state.stage ≤ sh'.state.stage
  /-- The history only grows. -/
  log : sh.log <:+ sh'.log
  /-- The countdown only counts down. -/
  count : sh'.countdown.currentCount ≤ sh.countdown.currentCount

namespace Progress

variable {sh sh' : Shared}

lemma of_eq (hstate : sh'.state = sh.state) (hlog : sh'.log = sh.log)
    (hcountdown : sh'.countdown = sh.countdown) : Progress sh sh' where
  stage := Nat.le_of_eq (congrArg ConnectionState.stage hstate.symm)
  log := hlog ▸ List.suffix_rfl
  count := Nat.le_of_eq (congrArg Countdown.currentCount hcountdown)

lemma trans {sh'' : Shared} (h : Progress sh sh') (h' : Progress sh' sh'') :
    Progress sh sh'' where
  stage := Nat.le_trans h.stage h'.stage
  log := h.log.trans h'.log
  count := Nat.le_trans h'.count h.count

lemma terminal (h : Progress sh sh') (ht : sh.state.Terminal) : sh'.state.Terminal := by
  have hstage := h.stage
  have hle := sh'.state.stage_le
  rw [ConnectionState.terminal_iff_stage] at ht ⊢
  omega

/-- What has happened stays in the history. -/
lemma any_log (h : Progress sh sh') {f : Event → Bool} (hf : sh.log.any f = true) :
    sh'.log.any f = true := by
  rw [List.any_eq_true] at hf ⊢
  obtain ⟨e, he, hfe⟩ := hf
  exact ⟨e, h.log.subset he, hfe⟩

lemma entered (h : Progress sh sh') {value : ConnectionState} (he : sh.Entered value) :
    sh'.Entered value := h.any_log he

lemma count_eq_zero (h : Progress sh sh') (hc : sh.countdown.currentCount = 0) :
    sh'.countdown.currentCount = 0 := by
  have := h.count
  omega

end Progress

/-- Every move is a progress. -/
theorem Move.progress {cfg : Config} {i : ℕ} {sh sh' : Shared} {pc pc' : Pc}
    (h : Move cfg i sh pc sh' pc') : Progress sh sh' := by
  cases h with
  | connectStarts h | connecting h | openedConnects _ h | loggingIn h | closedDisconnects h
  | rejects _ _ _ h | accepts _ _ _ h =>
    -- a compare-and-exchange moves one stage on, or to the end
    refine ⟨?_, ?_, Nat.le_refl _⟩
    · simp [h, ConnectionState.stage]
    · simp [List.suffix_cons_iff]
  | timeoutFails | errorFails | closeDisconnects =>
    -- a write without test is the end
    exact ⟨sh.state.stage_le, List.suffix_cons _ _, Nat.le_refl _⟩
  | signals => exact ⟨Nat.le_refl _, List.suffix_rfl, Nat.sub_le _ _⟩
  | _ => exact ⟨Nat.le_refl _, by simp [List.suffix_cons_iff], Nat.le_refl _⟩

/-- A raised event leaves everything but the socket as it is. -/
lemma SocketEvent.progress (e : SocketEvent) (sh : Shared) :
    Progress sh (sh.raise e) :=
  .of_eq rfl rfl rfl

/-! ## What the threads know -/

/-- The close is part of the handling of a rejected login. -/
def CloseCaller.isRejection : CloseCaller → Bool
  | rejection _ _ => true
  | user | dispose => false

/-- A callback of the socket is in progress. -/
def Pc.isCallback : Pc → Bool
  | .opened _ | .error _ | .closed _ | .received _ => true
  | .close caller _ => caller.isRejection
  | .connect _ | .dispose _ | .sendMessage _ | .done => false

/-- Behind the test and the write of `Close()`. -/
def ClosePc.isLate : ClosePc → Bool
  | exchange | closeSocket => true
  | testFailed | writeDisconnected => false

/-- The program points that a thread only reaches once the client has come to its end. -/
def Pc.atEnd : Pc → Bool
  | .connect .onConnectionFailure | .error (.onConnectionFailure _)
  | .received (.onConnectionFailure _ _) | .dispose .writeDisposed => true
  | .close caller pc => caller.isRejection || pc.isLate
  | _ => false

/-- The acknowledgement was decoded from a binary. -/
def Decoded (cfg : Config) (header : MessageHeader) (ackData : ConnectionAckData) : Prop :=
  ∃ binary, MessageManager.getMessageFromBinary cfg.wire binary =
    .ok ⟨header, some (.connectionAck ackData)⟩

/-- An accepted acknowledgement with status OK. -/
def Event.isAcceptedOk : Event → Bool
  | accepted _ ackData => ackData.status = .ok
  | _ => false

/-- What a thread knows at its program point. -/
structure Knows (cfg : Config) (sh : Shared) (pc : Pc) : Prop where
  /-- A thread that reports a failure or ends a close does so at the end. -/
  atEnd : pc.atEnd = true → sh.state.Terminal
  /-- Behind the send of the callback the login message has been sent. -/
  login : pc = .opened .compareExchangeLoggingIn → sh.log.any Event.isLoginMessage = true
  /-- An acknowledgement in progress was received. -/
  decoded : ∀ header ackData, pc = .received (.signal header ackData) ∨
    pc = .received (.compareExchange header ackData) → Decoded cfg header ackData
  /-- Behind the signal the countdown has counted down. -/
  signalled : ∀ header ackData, pc = .received (.compareExchange header ackData) →
    sh.countdown.currentCount = 0
  /-- Behind the test of a send the client has been logged in. -/
  allowed : ∀ header data, pc = .sendMessage (.send header data) → sh.Entered .loggedIn

/-- What every shared state satisfies. -/
structure Lifecycle (sh : Shared) : Prop where
  /-- The countdown is used at most once. -/
  count : sh.countdown.currentCount ≤ 1
  /-- A client that is logging in has sent its login message. -/
  loggingIn : sh.state = .loggingIn → sh.log.any Event.isLoginMessage = true
  /-- The history knows that the client is logged in. -/
  loggedIn : sh.state = .loggedIn → sh.Entered .loggedIn
  /-- After its login a client does not go back before it. -/
  stage : sh.Entered .loggedIn → 5 ≤ sh.state.stage
  /-- A login comes after the login message. -/
  login : sh.Entered .loggedIn → sh.log.any Event.isLoginMessage = true
  /-- A login comes after a positive acknowledgement. -/
  accepted : sh.Entered .loggedIn → sh.log.any Event.isAcceptedOk = true
  /-- When the client is logged in or waits no longer, the countdown has counted down. -/
  loggedIn_count : sh.Entered .loggedIn → sh.countdown.currentCount = 0

namespace Knows

variable {cfg : Config} {sh sh' : Shared} {pc : Pc}

/-- Progress does not take away what a thread knows. -/
lemma mono (h : Knows cfg sh pc) (hp : Progress sh sh') : Knows cfg sh' pc where
  atEnd hpc := hp.terminal (h.atEnd hpc)
  login hpc := hp.any_log (h.login hpc)
  decoded := h.decoded
  signalled header ackData hpc := hp.count_eq_zero (h.signalled header ackData hpc)
  allowed header data hpc := hp.entered (h.allowed header data hpc)

lemma call (c : Call) : Knows cfg sh (c.start cfg) := by
  cases c <;> constructor <;>
    simp [Call.start, Pc.atEnd, CloseCaller.isRejection, ClosePc.isLate]

lemma raise (e : SocketEvent) : Knows cfg sh e.start := by
  cases e <;> constructor <;> simp [SocketEvent.start, Pc.atEnd]

end Knows

namespace Move

variable {cfg : Config} {i : ℕ} {sh sh' : Shared} {pc pc' : Pc}

lemma atEnd (h : Move cfg i sh pc sh' pc') (hpc : pc.atEnd = true → sh.state.Terminal)
    (hpc' : pc'.atEnd = true) : sh'.state.Terminal := by
  cases h with
  | timeoutFails | errorFails | rejects => exact .inr rfl
  | closeDisconnects => exact .inl rfl
  | closeFindsFailed _ hs => exact .inr hs
  | closeFindsNotFailed caller =>
    cases caller with
    | rejection => exact hpc rfl
    | user | dispose => cases hpc'
  | closeMarks | closeReturns => exact hpc (by simp [Pc.atEnd, ClosePc.isLate])
  | _ => cases hpc'

lemma knows (h : Move cfg i sh pc sh' pc') (hI : Lifecycle sh) (hpc : Knows cfg sh pc) :
    Knows cfg sh' pc' where
  atEnd := h.atEnd hpc.atEnd
  login hpc' := by
    cases h with
    | loginSent => rfl
    | closeReturns caller => cases caller <;> cases hpc'
    | _ => cases hpc'
  decoded header ackData hpc' := by
    cases h with
    | receivedAck binary _ _ hdecode => rcases hpc' with h | h <;> cases h; exact ⟨binary, hdecode⟩
    | signals =>
      rcases hpc' with h | h <;> cases h
      exact hpc.decoded _ _ (.inl rfl)
    | closeReturns caller => rcases hpc' with h | h <;> cases caller <;> cases h
    | _ => rcases hpc' with h | h <;> cases h
  signalled header ackData hpc' := by
    cases h with
    | signals _ _ hcount =>
      have := hI.count
      simp only
      omega
    | closeReturns caller => cases caller <;> cases hpc'
    | _ => cases hpc'
  allowed header data hpc' := by
    cases h with
    | sendAllowed _ _ hs => exact hI.loggedIn hs
    | closeReturns caller => cases caller <;> cases hpc'
    | _ => cases hpc'

/-- A client is only logged in by the acceptance of an acknowledgement. -/
lemma state_eq_loggedIn (h : Move cfg i sh pc sh' pc') (hs : sh'.state = .loggedIn) :
    sh.state = .loggedIn ∨ ∃ header ackData, pc = .received (.compareExchange header ackData) ∧
      ackData.status = .ok ∧ sh.state = .loggingIn := by
  cases h with
  | accepts header ackData hstatus h => exact .inr ⟨header, ackData, rfl, hstatus, h⟩
  | connectStarts | connecting | timeoutFails | openedConnects | loggingIn | errorFails
  | closedDisconnects | rejects | closeDisconnects => cases hs
  | _ => exact .inl hs

/-- The history knows of a login before the move, or the move accepts an acknowledgement. -/
lemma entered_loggedIn (h : Move cfg i sh pc sh' pc') (he : sh'.Entered .loggedIn) :
    sh.Entered .loggedIn ∨ ∃ header ackData, pc = .received (.compareExchange header ackData) ∧
      ackData.status = .ok ∧ sh.state = .loggingIn ∧
      sh' = (sh.write .loggedIn).record (.accepted header ackData) := by
  cases h with
  | accepts header ackData hstatus h => exact .inr ⟨header, ackData, rfl, hstatus, h, rfl⟩
  | _ => exact .inl (by simpa [Shared.Entered, Event.isState] using he)

/-- A client only starts to log in behind the send of its login message. -/
lemma state_eq_loggingIn (h : Move cfg i sh pc sh' pc') (hs : sh'.state = .loggingIn) :
    sh.state = .loggingIn ∨ pc = .opened .compareExchangeLoggingIn := by
  cases h with
  | loggingIn => exact .inr rfl
  | connectStarts | connecting | timeoutFails | openedConnects | accepts | errorFails
  | closedDisconnects | rejects | closeDisconnects => cases hs
  | _ => exact .inl hs

/-- A move keeps what every shared state satisfies. -/
lemma lifecycle (h : Move cfg i sh pc sh' pc') (hI : Lifecycle sh) (hpc : Knows cfg sh pc) :
    Lifecycle sh' where
  count := Nat.le_trans h.progress.count hI.count
  loggingIn hs := by
    rcases h.state_eq_loggingIn hs with hs | rfl
    · exact h.progress.any_log (hI.loggingIn hs)
    · exact h.progress.any_log (hpc.login rfl)
  loggedIn hs := by
    rcases h.state_eq_loggedIn hs with hold | ⟨header, ackData, rfl, hstatus, hold⟩
    · exact h.progress.entered (hI.loggedIn hold)
    · cases h <;> simp_all [Shared.Entered, Event.isState]
  stage he := by
    rcases h.entered_loggedIn he with hold | ⟨header, ackData, rfl, -, -, rfl⟩
    · exact Nat.le_trans (hI.stage hold) h.progress.stage
    · simp [ConnectionState.stage]
  login he := by
    rcases h.entered_loggedIn he with hold | ⟨header, ackData, rfl, -, hs, rfl⟩
    · exact h.progress.any_log (hI.login hold)
    · exact h.progress.any_log (hI.loggingIn hs)
  accepted he := by
    rcases h.entered_loggedIn he with hold | ⟨header, ackData, rfl, hstatus, -, rfl⟩
    · exact h.progress.any_log (hI.accepted hold)
    · simp [Event.isAcceptedOk, hstatus]
  loggedIn_count he := by
    rcases h.entered_loggedIn he with hold | ⟨header, ackData, rfl, -, -, rfl⟩
    · exact h.progress.count_eq_zero (hI.loggedIn_count hold)
    · exact hpc.signalled header ackData rfl

end Move

namespace AsyncGDSClient

variable {cfg : Config} {s s' : Client} {l : Label} {ok : Guard Client Label}

/-- A step keeps what the threads and the shared state of a client satisfy. -/
lemma lifecycle_step (h : s.Annotated Lifecycle (Knows cfg)) (hstep : step cfg s l = some s') :
    s'.Annotated Lifecycle (Knows cfg) := by
  refine annotated_step h hstep (fun c => Knows.call c) ?_ ?_
  · intro e _ _
    have hp := e.progress s.shared
    refine ⟨?_, Knows.raise e, fun q _ hq => hq.mono hp⟩
    exact ⟨h.shared.count, h.shared.loggingIn, h.shared.loggedIn, h.shared.stage, h.shared.login,
      h.shared.accepted, h.shared.loggedIn_count⟩
  · intro i pc sh' pc' _ hpc hm
    exact ⟨hm.lifecycle h.shared (h.at hpc), hm.knows h.shared (h.at hpc),
      fun q _ hq => hq.mono hm.progress⟩

/-- What the threads and the shared state of a client satisfy in every run. -/
theorem lifecycle (h : (system cfg).Reachable ok s) : s.Annotated Lifecycle (Knows cfg) := by
  refine h.invariant ?_ fun s l s' hs _ hstep => lifecycle_step hs hstep
  refine ⟨?_, fun pc hpc => by cases hpc⟩
  constructor <;> simp [system, Shared.init, Shared.Entered]

/-- A step is a progress of the shared state. -/
lemma step_progress (hstep : step cfg s l = some s') : Progress s.shared s'.shared := by
  rcases step_cases hstep with ⟨c, -, rfl⟩ | ⟨e, -, -, rfl⟩ | ⟨i, pc, sh', pc', -, -, hm, rfl⟩
  · exact .of_eq rfl rfl rfl
  · exact e.progress s.shared
  · exact hm.progress

/-- A run is a progress of the shared state. -/
theorem progress (h : (system cfg).Reaches ok s s') : Progress s.shared s'.shared := by
  refine h.invariant (I := fun t => Progress s.shared t.shared) ?_ (.of_eq rfl rfl rfl)
  intro t l t' ht _ hstep
  exact ht.trans (step_progress hstep)

end AsyncGDSClient

end Gds
