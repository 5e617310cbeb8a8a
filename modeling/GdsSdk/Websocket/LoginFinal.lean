import GdsSdk.Websocket.FailureReports

/-!
# What becomes of a login

A login should end with a disconnect and never with a failure.  It does not when a thread that
decided to fail before the login carries on after it, when the timeout of `Connect()` looks at
`State` only after the login, or when an error or the end of the connection comes after the user
has closed the client: `OnSocketError` and `OnSocketClosed` then find `DISCONNECTED`, which their
tests take for a failed login.  In all other runs a login is never turned into a failure.
-/

namespace Gds

open Transition AsyncGDSClient

/-- A client that is logged in never fails: `State` is never `FAILED` afterwards, and the listener
is never told of a failed connection. -/
def LoginIsFinal (cfg : Config) (ok : Guard Client Label) : Prop :=
  ∀ s s', (system cfg).Reachable ok s → s.shared.state = .loggedIn →
    (system cfg).Reaches ok s s' →
    s'.shared.state ≠ .failed ∧ s'.shared.failures = s.shared.failures

/-- A thread that fails whatever becomes of `State`, unless `State` is `FAILED` already. -/
def Pc.isFatal : Pc → Bool
  | .connect .writeFailed | .error (.writeFailed _ _) | .closed .testFailed
  | .closed .onConnectionFailure => true
  | _ => false

/-- The thread is about to accept an acknowledgement. -/
def Pc.isAccepting (sh : Shared) : Pc → Bool
  | .received (.compareExchange _ ackData) =>
    decide (ackData.status = .ok) && decide (sh.state = .loggingIn)
  | _ => false

/-- The thread of `Connect()` looks at `State` after its wait timed out. -/
def Pc.isTimeoutTest : Pc → Bool
  | .connect .readState => true
  | _ => false

/-- A test that takes `DISCONNECTED` for a login that failed. -/
def Pc.isLoginTest : Pc → Bool
  | .error (.testLoggedIn _ _) | .closed .compareExchange => true
  | _ => false

/-- An acknowledgement is accepted only while no thread is bound to fail; the timeout does not
find the client logged in; and after a login neither `OnSocketError` nor `OnSocketClosed` finds it
disconnected. -/
def KeepsLogin (s : Client) (_ : ℕ) (pc : Pc) : Prop :=
  (pc.isAccepting s.shared = true → ∀ q ∈ s.threads, q.isFatal = false) ∧
  (pc.isTimeoutTest = true → s.shared.state ≠ .loggedIn) ∧
  (pc.isLoginTest = true → s.shared.Entered .loggedIn → s.shared.state ≠ .disconnected)

instance (s : Client) (i : ℕ) (pc : Pc) : Decidable (KeepsLogin s i pc) :=
  inferInstanceAs (Decidable (_ ∧ _ ∧ _))

/-- The client is logged in, or was until it was disconnected. -/
def LoginKept (sh : Shared) : Prop := sh.state = .loggedIn ∨ sh.state = .disconnected

/-- After its login a client is not about to fail. -/
def AfterLoginSafe (s : Client) : Prop :=
  s.shared.Entered .loggedIn → LoginKept s.shared ∧
    ∀ q ∈ s.threads, q.isFatal = false ∧ q.isReporting = false

namespace Move

variable {cfg : Config} {i : ℕ} {sh sh' : Shared} {pc pc' : Pc}

/-- A client that was logged in stays so or is disconnected, unless a fatal thread moves. -/
lemma loginKept (h : Move cfg i sh pc sh' pc') (hkept : LoginKept sh)
    (hfatal : pc.isFatal = false) : LoginKept sh' := by
  cases h with
  | connectStarts h | connecting h | openedConnects _ h | loggingIn h | rejects _ _ _ h
  | accepts _ _ _ h =>
    -- none of these states is met after a login
    rcases hkept with hs | hs <;> rw [hs] at h <;> cases h
  | timeoutFails | errorFails => cases hfatal
  | closedDisconnects | closeDisconnects => exact .inr rfl
  | _ => exact hkept

/-- After a login no thread becomes fatal or comes to report a failure. -/
lemma not_fatal (h : Move cfg i sh pc sh' pc') (hkept : LoginKept sh)
    (htimeout : pc.isTimeoutTest = true → sh.state ≠ .loggedIn)
    (htest : pc.isLoginTest = true → sh.state ≠ .disconnected)
    (hfatal : pc.isFatal = false) (hreporting : pc.isReporting = false) :
    pc'.isFatal = false ∧ pc'.isReporting = false := by
  cases h with
  | timeoutDue h =>
    rcases hkept with hs | hs
    · exact absurd hs (htimeout rfl)
    · exact absurd (.inl hs) h
  | errorFindsNotLoggedIn _ _ h | closedFindsNotLoggedIn h =>
    exact absurd (hkept.resolve_left h) (htest rfl)
  | timeoutFails | errorFails | closedFindsNotFailed => cases hfatal
  | rejects _ _ _ h => rcases hkept with hs | hs <;> rw [hs] at h <;> cases h
  | closeFindsFailed | closeFindsNotFailed | closeDisconnects | closeMarks =>
    exact ⟨rfl, hreporting⟩
  | closeReturns caller =>
    cases caller with
    | rejection => cases hreporting
    | user | dispose => exact ⟨rfl, rfl⟩
  | _ => exact ⟨rfl, rfl⟩

/-- A thread that is not about to report a failure does not report one. -/
lemma failures_eq (h : Move cfg i sh pc sh' pc') (hreporting : pc.isReporting = false) :
    sh'.failures = sh.failures := by
  unfold Shared.failures
  cases h with
  | timeoutReported | errorReported | closedReported | rejectionReported => cases hreporting
  | _ => simp [Event.isFailure]

end Move

namespace AsyncGDSClient

variable {cfg : Config} {ok : Guard Client Label} {s s' : Client} {l : Label}

/-- When an acknowledgement is accepted, no thread is about to fail. -/
lemma afterLoginSafe_accept {i : ℕ} {header : MessageHeader} {ackData : ConnectionAckData}
    {pc' : Pc} {sh' : Shared} (hlife : s.Annotated Lifecycle (Knows cfg))
    (hm : Move cfg i s.shared (.received (.compareExchange header ackData)) sh' pc')
    (hstatus : ackData.status = .ok) (hstate : s.shared.state = .loggingIn)
    (hguard : KeepsLogin s i (.received (.compareExchange header ackData))) :
    LoginKept sh' ∧ ∀ q ∈ s.threads.set i pc', q.isFatal = false ∧ q.isReporting = false := by
  have hfatal := hguard.1 (by simp [Pc.isAccepting, hstatus, hstate])
  have hnot : ¬ s.shared.state.Terminal := by
    rw [hstate]
    decide
  have hothers : ∀ q ∈ s.threads, q.isFatal = false ∧ q.isReporting = false := by
    intro q hq
    refine ⟨hfatal q hq, ?_⟩
    by_contra hreporting
    -- a report is only due at the end, or by `OnSocketClosed`, which is fatal
    have hend : q.atEnd = true := by
      have hq' := hfatal q hq
      unfold Pc.isReporting at hreporting
      split at hreporting <;> simp_all [Pc.atEnd, Pc.isFatal]
    exact hnot ((hlife.threads q hq).atEnd hend)
  cases hm with
  | accepts =>
    exact ⟨.inl rfl, Pool.forall_set hothers ⟨rfl, rfl⟩⟩
  | rejects _ _ h => exact absurd hstatus h
  | ackOutOfTurn _ _ h => exact absurd hstate h

/-- A step under the condition leaves a client that was logged in safe. -/
lemma afterLoginSafe_step (hlife : s.Annotated Lifecycle (Knows cfg)) (hs : AfterLoginSafe s)
    (hl : WhenMoving KeepsLogin s l) (hstep : step cfg s l = some s') : AfterLoginSafe s' := by
  intro hentered
  rcases step_cases hstep with ⟨c, -, rfl⟩ | ⟨e, -, -, rfl⟩ | ⟨i, pc, sh', pc', hi, hpc, hm, rfl⟩
  · obtain ⟨hkept, hthreads⟩ := hs hentered
    exact ⟨hkept, Pool.forall_spawn hthreads (by cases c <;> exact ⟨rfl, rfl⟩)⟩
  · obtain ⟨hkept, hthreads⟩ := hs hentered
    exact ⟨hkept, Pool.forall_spawn hthreads (by cases e <;> exact ⟨rfl, rfl⟩)⟩
  · have hguard := hl i hi pc hpc
    rcases hm.entered_loggedIn hentered with hold | ⟨header, ackData, rfl, hstatus, hstate, -⟩
    · obtain ⟨hkept, hthreads⟩ := hs hold
      obtain ⟨hfatal, hreporting⟩ := hthreads pc (List.mem_of_getElem? hpc)
      have hpc' := hm.not_fatal hkept hguard.2.1 (fun h => hguard.2.2 h hold) hfatal hreporting
      exact ⟨hm.loginKept hkept hfatal, Pool.forall_set hthreads hpc'⟩
    · exact afterLoginSafe_accept hlife hm hstatus hstate hguard

/-- A login is never turned into a failure if an acknowledgement is accepted only while no thread
is bound to fail, the timeout does not find the client logged in, and neither `OnSocketError` nor
`OnSocketClosed` finds it disconnected after its login. -/
theorem loginIsFinal (cfg : Config) : LoginIsFinal cfg (WhenMoving KeepsLogin) := by
  intro s s' h hs hrun
  have hsafe : ∀ t, (system cfg).Reachable (WhenMoving KeepsLogin) t → AfterLoginSafe t := by
    intro t ht
    refine ht.invariant_of (J := fun t => t.Annotated Lifecycle (Knows cfg)) (I := AfterLoginSafe)
      (fun t ht => lifecycle ht) ?_ fun t l t' hlife ht hl hstep =>
        afterLoginSafe_step hlife ht hl hstep
    intro hentered
    simp [system, Shared.init, Shared.Entered] at hentered
  have hentered : s.shared.Entered .loggedIn := (lifecycle h).shared.loggedIn hs
  -- no report is made on the way
  have key : (system cfg).Reachable (WhenMoving KeepsLogin) s' ∧
      s'.shared.Entered .loggedIn ∧ s'.shared.failures = s.shared.failures := by
    refine hrun.invariant (I := fun t => (system cfg).Reachable (WhenMoving KeepsLogin) t ∧
      t.shared.Entered .loggedIn ∧ t.shared.failures = s.shared.failures) ?_ ⟨h, hentered, rfl⟩
    rintro t l t' ⟨hreach, hin, hfailures⟩ hl hstep
    refine ⟨hreach.step hl hstep, (step_progress hstep).entered hin, ?_⟩
    rw [← hfailures]
    rcases step_cases hstep with ⟨c, -, rfl⟩ | ⟨e, -, -, rfl⟩ | ⟨i, pc, sh', pc', -, hpc, hm, rfl⟩
    · rfl
    · rfl
    · exact hm.failures_eq ((hsafe t hreach hin).2 pc (List.mem_of_getElem? hpc)).2
  refine ⟨fun hfailed => ?_, key.2.2⟩
  rcases (hsafe s' key.1 key.2.1).1 with hkept | hkept <;> rw [hkept] at hfailed <;> cases hfailed

end AsyncGDSClient

open Scenario in
/-- The user closes a client that is logged in, and an error of the socket comes after it: the
client has failed, and the listener is told so. -/
theorem AsyncGDSClient.not_loginIsFinal : ¬ LoginIsFinal cfg SocketRule := by
  intro hclaim
  have hrun : ∃ s, (system cfg).Reachable SocketRule s ∧ s.shared.state = .loggedIn ∧
      ((system cfg).exec SocketRule ([.call .close] ++ steps 4 3 ++ [.raise (.error "reset")] ++
        steps 5 4) s).any (fun t => decide (t.shared.state = .failed)) = true :=
    System.exists_reachable login (by decide +kernel)
  obtain ⟨s, hreach, hlogin, hexec⟩ := hrun
  obtain ⟨s', hrun', hfailed⟩ := System.exists_reaches _ hexec
  exact (hclaim s s' hreach hlogin hrun').1 hfailed

open Scenario in
/-- An error of the socket ends the connection of a client that is logged in. -/
theorem AsyncGDSClient.loginIsFinal_error : ∃ s s',
    (system cfg).Reachable (WhenMoving KeepsLogin) s ∧ s.shared.state = .loggedIn ∧
    (system cfg).Reaches (WhenMoving KeepsLogin) s s' ∧ s'.shared.state = .disconnected ∧
    s'.shared.failures = s.shared.failures := by
  have hrun : ∃ s, (system cfg).Reachable (WhenMoving KeepsLogin) s ∧
      s.shared.state = .loggedIn ∧ ((system cfg).exec (WhenMoving KeepsLogin)
        ([.raise (.error "reset")] ++ steps 4 3 ++ [.raise .closed] ++ steps 4 4) s).any
        (fun t => decide (t.shared.state = .disconnected)) = true :=
    System.exists_reachable login (by decide +kernel)
  obtain ⟨s, hreach, hlogin, hexec⟩ := hrun
  obtain ⟨s', hrun', hdisconnected⟩ := System.exists_reaches _ hexec
  exact ⟨s, s', hreach, hlogin, hrun', hdisconnected,
    (loginIsFinal cfg s s' hreach hlogin hrun').2⟩

end Gds
