import GdsSdk.Websocket.Disconnect

/-!
# Reports of a failed connection

Four places report a failed connection.  Three of them record it in `State` first: the timeout of
`Connect()`, `OnSocketError`, and the handler of a rejected login.  The fourth, `OnSocketClosed`,
reports without recording, and `Close()` may write over a recorded failure.  So a failure may be
reported twice, and the listener may be told of it while `State` says something else.

The two theorems of this file say what is left: failures are reported at most once as long as no
failure is recorded beside another report, and `State` agrees with the reports as long as
`OnSocketClosed` makes none of its own and `Close()` does not write over `FAILED`.
-/

namespace Gds

open Transition AsyncGDSClient

/-! ## Where failures are recorded and reported -/

/-- A thread that is committed to report a failure. -/
def Pc.isReporting : Pc → Bool
  | .connect .onConnectionFailure | .error (.onConnectionFailure _)
  | .closed .onConnectionFailure | .received (.onConnectionFailure _ _) => true
  | .close caller _ => caller.isRejection
  | _ => false

/-- A step that records a failure in `State`. -/
def Pc.recordsFailure (sh : Shared) : Pc → Bool
  | .connect .writeFailed | .error (.writeFailed _ _) => true
  | .received (.compareExchange _ ackData) =>
    decide (ackData.status ≠ .ok) && decide (sh.state = .loggingIn)
  | _ => false

/-- A thread that has decided to record a failure, whatever `State` becomes meanwhile. -/
def Pc.isArmed : Pc → Bool
  | .connect .writeFailed | .error (.testLoggedIn _ _) | .error (.writeFailed _ _) => true
  | _ => false

/-- A test of `State` against `FAILED` that is followed by a report. -/
def Pc.testsFailed : Pc → Bool
  | .error (.testFailed _ _) | .closed .testFailed => true
  | _ => false

/-- The last test of `OnSocketClosed`. -/
def Pc.isClosedTest : Pc → Bool
  | .closed .testFailed => true
  | _ => false

/-- The write of `Close()`. -/
def Pc.isCloseWrite : Pc → Bool
  | .close _ .writeDisconnected => true
  | _ => false

/-- `OnSocketClosed` has decided to report a failure. -/
def Pc.isClosedFailure : Pc → Bool
  | .closed .onConnectionFailure => true
  | _ => false

/-- `OnSocketClosed` has reported a failure. -/
def Event.isClosedFailure : Event → Bool
  | onConnectionFailure (.socketClosed _) => true
  | _ => false

/-- `OnSocketClosed` has reported a failure, or has decided to. -/
def ClosedReported (s : Client) : Prop :=
  s.threads.any Pc.isClosedFailure = true ∨ s.shared.log.any Event.isClosedFailure = true

instance (s : Client) : Decidable (ClosedReported s) := inferInstanceAs (Decidable (_ ∨ _))

/-- The failures that have been reported or will be. -/
def reports (s : Client) : ℕ := s.shared.failures + s.threads.countP Pc.isReporting

namespace Move

variable {cfg : Config} {i : ℕ} {sh sh' : Shared} {pc pc' : Pc}

/-- One more report is due exactly after a step that records a failure, and after the decision of
`OnSocketClosed`. -/
lemma reports_eq (h : Move cfg i sh pc sh' pc') :
    sh'.failures + pc'.isReporting.toNat = sh.failures + pc.isReporting.toNat +
      (pc.recordsFailure sh || pc'.isClosedFailure).toNat := by
  unfold Shared.failures
  cases h with
  | closeReturns caller =>
    cases caller <;> simp [Event.isFailure, Pc.isReporting, Pc.recordsFailure,
      Pc.isClosedFailure, CloseCaller.isRejection, CloseCaller.next]
  | timeoutReported | errorReported | closedReported | rejectionReported =>
    simp [List.countP_cons, Event.isFailure, Pc.isReporting, Pc.recordsFailure,
      Pc.isClosedFailure]
  | rejects _ _ hstatus hs | accepts _ _ hstatus hs =>
    simp [Event.isFailure, Pc.isReporting, Pc.recordsFailure, Pc.isClosedFailure,
      CloseCaller.isRejection, hstatus, hs]
  | ackOutOfTurn _ _ hs => simp [Pc.isReporting, Pc.recordsFailure, Pc.isClosedFailure, hs]
  | _ => rfl

/-- After a step that records a failure the client has come to its end, and the thread goes on to
its report. -/
lemma recorded (h : Move cfg i sh pc sh' pc') (hpc : pc.recordsFailure sh = true) :
    sh'.Entered .failed ∧ sh'.state.Terminal ∧ pc'.isArmed = false := by
  cases h with
  | timeoutFails | errorFails | rejects => exact ⟨by simp [Shared.Entered, Event.isState],
      .inr rfl, rfl⟩
  | accepts _ _ hstatus => simp [Pc.recordsFailure, hstatus] at hpc
  | ackOutOfTurn _ _ hs => simp [Pc.recordsFailure, hs] at hpc
  | _ => cases hpc

/-- How a thread comes to be armed: it meets a state that is not the end, it passes the first test
of `OnSocketError`, or it was armed before. -/
lemma isArmed (h : Move cfg i sh pc sh' pc') (hpc' : pc'.isArmed = true) :
    ¬ sh.state.Terminal ∨ (pc.testsFailed = true ∧ sh.state ≠ .failed) ∨ pc.isArmed = true := by
  cases h with
  | timeoutDue hs => exact .inl hs
  | errorFindsNotFailed _ _ hs => exact .inr (.inl ⟨rfl, hs⟩)
  | errorFindsNotLoggedIn => exact .inr (.inr rfl)
  | closeReturns caller => cases caller <;> cases hpc'
  | _ => cases hpc'

/-- `OnSocketClosed` decides to report when its test does not find `FAILED`. -/
lemma isClosedFailure (h : Move cfg i sh pc sh' pc') (hpc' : pc'.isClosedFailure = true) :
    pc = .closed .testFailed ∧ sh.state ≠ .failed := by
  cases h with
  | closedFindsNotFailed hs => exact ⟨rfl, hs⟩
  | closeReturns caller => cases caller <;> cases hpc'
  | _ => cases hpc'

/-- The decision of `OnSocketClosed` is followed by its report. -/
lemma closedFailure_log (h : Move cfg i sh pc sh' pc') (hpc : pc.isClosedFailure = true) :
    sh'.log.any Event.isClosedFailure = true := by
  cases h with
  | closedReported => rfl
  | _ => cases hpc

end Move

/-- A step records a failure only from an armed thread, or before the end. -/
lemma Pc.armed_of_recordsFailure {sh : Shared} {pc : Pc} (h : pc.recordsFailure sh = true) :
    pc.isArmed = true ∨ ¬ sh.state.Terminal := by
  unfold Pc.recordsFailure at h
  split at h
  · exact .inl rfl
  · exact .inl rfl
  · simp only [Bool.and_eq_true, decide_eq_true_eq] at h
    rw [h.2]
    exact .inr (by decide)
  · cases h

/-! ## At most one report -/

/-- The listener is told of a failed connection at most once. -/
def ReportsOnce (cfg : Config) (ok : Guard Client Label) : Prop :=
  ∀ s, (system cfg).Reachable ok s → s.shared.failures ≤ 1

/-- A failure is recorded neither while another thread has decided to record one nor after
`OnSocketClosed` has decided to report one; and once a failure was recorded, the tests that are
followed by a report still find it. -/
def RecordsAlone (s : Client) (i : ℕ) (pc : Pc) : Prop :=
  (pc.recordsFailure s.shared = true →
    (∀ q ∈ s.threads.eraseIdx i, q.isArmed = false) ∧ ¬ ClosedReported s) ∧
  (pc.testsFailed = true → s.shared.Entered .failed → s.shared.state = .failed)

instance (s : Client) (i : ℕ) (pc : Pc) : Decidable (RecordsAlone s i pc) :=
  inferInstanceAs (Decidable (_ ∧ _))

/-- Why no second report can follow. -/
inductive Settled (s : Client) : Prop
  /-- A failure was recorded, and no thread is about to record another. -/
  | recorded (hentered : s.shared.Entered .failed) (hterminal : s.shared.state.Terminal)
    (hunarmed : ∀ q ∈ s.threads, q.isArmed = false)
  /-- `OnSocketClosed` has reported. -/
  | closed (h : ClosedReported s)

namespace AsyncGDSClient

variable {cfg : Config} {ok : Guard Client Label} {s : Client} {i : ℕ} {sh' : Shared}
  {pc pc' : Pc}

/-- The number of reports after a move. -/
lemma reports_move (hpc : s.threads[i]? = some pc) (hm : Move cfg i s.shared pc sh' pc') :
    reports ⟨sh', s.threads.set i pc'⟩ =
      reports s + (pc.recordsFailure s.shared || pc'.isClosedFailure).toNat := by
  have hcount := Pool.countP_set_add Pc.isReporting pc' hpc
  have hreports := hm.reports_eq
  simp only [reports]
  omega

/-- A move that commits no thread to a report keeps the reason why there is no second one. -/
lemma settled_move (hs : Settled s) (hpc : s.threads[i]? = some pc)
    (hm : Move cfg i s.shared pc sh' pc') (hguard : RecordsAlone s i pc) :
    Settled ⟨sh', s.threads.set i pc'⟩ := by
  have hmem := List.mem_of_getElem? hpc
  cases hs with
  | recorded hentered hterminal hunarmed =>
    refine .recorded (hm.progress.entered hentered) (hm.progress.terminal hterminal)
      (Pool.forall_set hunarmed ?_)
    by_contra harmed
    rcases hm.isArmed (Bool.eq_true_of_not_eq_false harmed) with h | ⟨htest, h⟩ | h
    · exact h hterminal
    · exact h (hguard.2 htest hentered)
    · rw [hunarmed pc hmem] at h
      cases h
  | closed h =>
    refine .closed ?_
    rcases h with h | h
    · obtain ⟨q, hq, hclosed⟩ := List.any_eq_true.mp h
      by_cases hqpc : q = pc
      · subst hqpc
        exact .inr (hm.closedFailure_log hclosed)
      · exact .inl (List.any_eq_true.mpr ⟨q, Pool.mem_set_of_ne hpc hq hqpc, hclosed⟩)
    · exact .inr (hm.progress.any_log h)

/-- After one report is due, no move commits a thread to another. -/
lemma not_commits_of_settled (hs : Settled s) (hpc : s.threads[i]? = some pc)
    (hm : Move cfg i s.shared pc sh' pc') (hguard : RecordsAlone s i pc)
    (honce : s.shared.log.countP Event.isClosedReport + s.threads.countP Pc.inClosed ≤ 1) :
    pc.recordsFailure s.shared = false ∧ pc'.isClosedFailure = false := by
  have hmem := List.mem_of_getElem? hpc
  refine ⟨?_, ?_⟩
  · by_contra hrecords
    have hrecords := Bool.eq_true_of_not_eq_false hrecords
    cases hs with
    | recorded _ hterminal hunarmed =>
      rcases Pc.armed_of_recordsFailure hrecords with h | h
      · rw [hunarmed pc hmem] at h
        cases h
      · exact h hterminal
    | closed h => exact (hguard.1 hrecords).2 h
  · by_contra hclosed
    obtain ⟨rfl, hstate⟩ := hm.isClosedFailure (Bool.eq_true_of_not_eq_false hclosed)
    cases hs with
    | recorded hentered _ _ => exact hstate (hguard.2 rfl hentered)
    | closed h =>
      -- `OnSocketClosed` would run twice
      rcases h with h | h
      · obtain ⟨q, hq, hq'⟩ := List.any_eq_true.mp h
        have hne : q ≠ .closed .testFailed := by
          rintro rfl
          cases hq'
        have hin : q.inClosed = true := by
          cases q <;> simp_all [Pc.isClosedFailure, Pc.inClosed]
        have := Pool.two_le_countP Pc.inClosed hmem hq hne rfl hin
        omega
      · obtain ⟨e, he, he'⟩ := List.any_eq_true.mp h
        have hreport : e.isClosedReport = true := by
          cases e with
          | onConnectionFailure cause => cases cause <;> simp_all [Event.isClosedFailure,
              Event.isClosedReport]
          | _ => cases he'
        have h₁ : 0 < s.shared.log.countP Event.isClosedReport :=
          List.countP_pos_iff.mpr ⟨e, he, hreport⟩
        have h₂ : 0 < s.threads.countP Pc.inClosed :=
          List.countP_pos_iff.mpr ⟨_, hmem, rfl⟩
        omega

/-- A move makes the first report due, and then there is a reason for no second one, or it changes
nothing about the reports. -/
lemma reportsOnce_move (hle : reports s ≤ 1) (hsettled : reports s = 1 → Settled s)
    (hpc : s.threads[i]? = some pc) (hm : Move cfg i s.shared pc sh' pc')
    (hguard : RecordsAlone s i pc)
    (honce : s.shared.log.countP Event.isClosedReport + s.threads.countP Pc.inClosed ≤ 1) :
    reports ⟨sh', s.threads.set i pc'⟩ ≤ 1 ∧
      (reports ⟨sh', s.threads.set i pc'⟩ = 1 → Settled ⟨sh', s.threads.set i pc'⟩) := by
  rw [reports_move hpc hm]
  by_cases hone : reports s = 1
  · obtain ⟨hrecords, hclosed⟩ :=
      not_commits_of_settled (hsettled hone) hpc hm hguard honce
    rw [hrecords, hclosed, hone]
    exact ⟨by simp, fun _ => settled_move (hsettled hone) hpc hm hguard⟩
  · have hzero : reports s = 0 := by omega
    have hbool := Bool.toNat_le (pc.recordsFailure s.shared || pc'.isClosedFailure)
    refine ⟨by omega, fun hdue => ?_⟩
    have hcommit : (pc.recordsFailure s.shared || pc'.isClosedFailure) = true := by
      by_contra hnot
      rw [Bool.eq_false_of_not_eq_true hnot, hzero] at hdue
      simp at hdue
    rcases Bool.or_eq_true_iff.mp hcommit with hrecords | hclosed
    · obtain ⟨hentered, hterminal, hunarmed⟩ := hm.recorded hrecords
      refine .recorded hentered hterminal fun q hq => ?_
      rcases Pool.mem_set_cases hq with rfl | hq
      · exact hunarmed
      · exact (hguard.1 hrecords).1 q hq
    · exact .closed (.inl (List.any_eq_true.mpr ⟨pc', Pool.mem_set_self hpc, hclosed⟩))

/-- A thread that starts reports nothing and changes nothing about the reports. -/
lemma reportsOnce_spawn {sh : Shared} (hle : reports s ≤ 1)
    (hsettled : reports s = 1 → Settled s) (hlog : sh.log = s.shared.log)
    (hstate : sh.state = s.shared.state) (hreporting : pc.isReporting = false)
    (harmed : pc.isArmed = false) :
    reports (s.spawn sh pc) ≤ 1 ∧ (reports (s.spawn sh pc) = 1 → Settled (s.spawn sh pc)) := by
  have hreports : reports (s.spawn sh pc) = reports s := by
    simp [reports, Pool.spawn, Shared.failures, hlog, hreporting]
  rw [hreports]
  refine ⟨hle, fun hone => ?_⟩
  cases hsettled hone with
  | recorded hentered hterminal hunarmed =>
    exact .recorded (by rwa [Pool.spawn, Shared.Entered, hlog]) (by rwa [Pool.spawn, hstate])
      (Pool.forall_spawn hunarmed harmed)
  | closed h =>
    refine .closed (h.imp (fun h => ?_) fun h => by rwa [Pool.spawn, hlog])
    rw [Pool.spawn, List.any_append, h, Bool.true_or]

/-- If no failure is recorded beside another report, and the tests after a recorded failure still
find it, then the listener is told of a failed connection at most once. -/
theorem reportsOnce (cfg : Config) :
    ReportsOnce cfg fun s l => RaisedOnce s l ∧ WhenMoving RecordsAlone s l := by
  intro s h
  have key : reports s ≤ 1 ∧ (reports s = 1 → Settled s) := by
    refine h.invariant_of (J := fun s => s.shared.log.countP Event.isClosedReport +
      s.threads.countP Pc.inClosed ≤ s.shared.socket.closedRaised.toNat)
      (I := fun s => reports s ≤ 1 ∧ (reports s = 1 → Settled s))
      (fun s hs => closedReports_le (fun _ _ hl => hl.1) hs) ?_ ?_
    · simp [reports, system, Shared.init, Shared.failures]
    rintro s l s' honce ⟨hle, hsettled⟩ hl hstep
    rcases step_cases hstep with ⟨c, -, rfl⟩ | ⟨e, -, -, rfl⟩ |
      ⟨i, pc, sh', pc', hi, hpc, hm, rfl⟩
    · exact reportsOnce_spawn hle hsettled rfl rfl (by cases c <;> rfl) (by cases c <;> rfl)
    · exact reportsOnce_spawn hle hsettled rfl rfl (by cases e <;> rfl) (by cases e <;> rfl)
    · have := Bool.toNat_le s.shared.socket.closedRaised
      exact reportsOnce_move hle hsettled hpc hm (hl.2 i hi pc hpc) (by omega)
  have hreports : s.shared.failures ≤ reports s := by simp [reports]
  omega

end AsyncGDSClient

open Scenario in
/-- The server closes the connection before it answers the login: `OnSocketClosed` reports, and
later the timeout reports again. -/
theorem AsyncGDSClient.not_reportsOnce : ¬ ReportsOnce cfg SocketRule := by
  intro hclaim
  have hrun : ∃ s, (system cfg).Reachable SocketRule s ∧ s.shared.failures = 2 :=
    System.exists_reachable (connecting ++ opening 1 ++ [.raise .closed] ++ steps 5 2 ++
      [.expire 0] ++ steps 3 0) (by decide +kernel)
  obtain ⟨s, hreach, htwo⟩ := hrun
  have := hclaim s hreach
  omega

open Scenario in
/-- The login is not answered in time, and nothing else happens. -/
theorem AsyncGDSClient.reportsOnce_timeout : ∃ s,
    (system cfg).Reachable (fun s l => RaisedOnce s l ∧ WhenMoving RecordsAlone s l) s ∧
      0 < s.shared.failures ∧ s.shared.failures ≤ 1 := by
  have hrun : ∃ s, (system cfg).Reachable
      (fun s l => RaisedOnce s l ∧ WhenMoving RecordsAlone s l) s ∧ 0 < s.shared.failures :=
    System.exists_reachable (connecting ++ opening 1 ++ [.expire 0] ++ steps 3 0)
      (by decide +kernel)
  obtain ⟨s, hreach, htold⟩ := hrun
  exact ⟨s, hreach, htold, reportsOnce cfg s hreach⟩

/-! ## Reports and `State` -/

/-- From the moment the listener is told of a failed connection on, `State` is `FAILED`.  (Telling
the listener does not change `State`, so it is what it was when the listener was told.) -/
def FailureIsState (cfg : Config) (ok : Guard Client Label) : Prop :=
  ∀ s, (system cfg).Reachable ok s → 0 < s.shared.failures → s.shared.state = .failed

/-- `OnSocketClosed` makes no report of its own, and `Close()` does not write over `FAILED`. -/
def KeepsFailure (s : Client) (_ : ℕ) (pc : Pc) : Prop :=
  (pc.isClosedTest = true → s.shared.state = .failed) ∧
  (pc.isCloseWrite = true → s.shared.state ≠ .failed)

instance (s : Client) (i : ℕ) (pc : Pc) : Decidable (KeepsFailure s i pc) :=
  inferInstanceAs (Decidable (_ ∧ _))

namespace Move

variable {cfg : Config} {i : ℕ} {sh sh' : Shared} {pc pc' : Pc}

/-- Only the write of `Close()` can undo a recorded failure. -/
lemma state_failed (h : Move cfg i sh pc sh' pc')
    (hwrite : pc.isCloseWrite = true → sh.state ≠ .failed) (hs : sh.state = .failed) :
    sh'.state = .failed := by
  cases h with
  | connectStarts h | connecting h | openedConnects _ h | loggingIn h | closedDisconnects h
  | accepts _ _ _ h =>
    rw [hs] at h
    cases h
  | timeoutFails | errorFails | rejects => rfl
  | closeDisconnects => exact absurd hs (hwrite rfl)
  | _ => exact hs

/-- A thread that comes to report a failure finds it recorded, unless it is `OnSocketClosed`. -/
lemma failed_of_isReporting (h : Move cfg i sh pc sh' pc')
    (htest : pc.isClosedTest = true → sh.state = .failed)
    (hwrite : pc.isCloseWrite = true → sh.state ≠ .failed)
    (hpc : pc.isReporting = true → sh.state = .failed) (hpc' : pc'.isReporting = true) :
    sh'.state = .failed := by
  have hkeeps := h.state_failed hwrite
  cases h with
  | timeoutFails | errorFails | rejects => rfl
  | closedFindsNotFailed hs => exact absurd (htest rfl) hs
  | closeFindsFailed | closeFindsNotFailed | closeDisconnects | closeMarks =>
    exact hkeeps (hpc hpc')
  | closeReturns caller =>
    cases caller with
    | rejection => exact hkeeps (hpc rfl)
    | user | dispose => cases hpc'
  | _ => cases hpc'

/-- A report is made by a thread that was about to report. -/
lemma isReporting_of_failure (h : Move cfg i sh pc sh' pc')
    (hlog : sh'.log.any Event.isFailure = true) :
    sh.log.any Event.isFailure = true ∨ pc.isReporting = true := by
  cases h with
  | timeoutReported | errorReported | closedReported | rejectionReported => exact .inr rfl
  | _ => exact .inl hlog

end Move

/-- The shared state and the threads agree that a reported failure is recorded. -/
def FailureRecorded : Client → Prop :=
  Pool.Annotated (fun sh => sh.log.any Event.isFailure = true → sh.state = .failed)
    fun sh pc => pc.isReporting = true → sh.state = .failed

namespace AsyncGDSClient

/-- If `OnSocketClosed` makes no report of its own and `Close()` does not write over `FAILED`, then
`State` is `FAILED` from the first report on. -/
theorem failureIsState (cfg : Config) : FailureIsState cfg (WhenMoving KeepsFailure) := by
  intro s h htold
  have key : FailureRecorded s := by
    refine h.invariant (I := FailureRecorded) ⟨by simp [system, Shared.init],
      fun pc hpc => by cases hpc⟩ fun s l s' hs hl hstep => ?_
    refine annotated_step hs hstep (fun c hc => by cases c <;> cases hc) ?_ ?_
    · exact fun e _ _ => ⟨hs.shared, fun he => (by cases e <;> cases he), fun q _ hq => hq⟩
    · intro i pc sh' pc' hi hpc hm
      obtain ⟨htest, hwrite⟩ := hl i hi pc hpc
      refine ⟨fun hlog => ?_, hm.failed_of_isReporting htest hwrite (hs.at hpc),
        fun q _ hq hq' => hm.state_failed hwrite (hq hq')⟩
      rcases hm.isReporting_of_failure hlog with hold | hreporting
      · exact hm.state_failed hwrite (hs.shared hold)
      · exact hm.state_failed hwrite (hs.at hpc hreporting)
  refine key.shared ?_
  obtain ⟨e, he, hfailure⟩ := List.countP_pos_iff.mp htold
  exact List.any_eq_true.mpr ⟨e, he, hfailure⟩

end AsyncGDSClient

open Scenario in
/-- The server closes the connection before it answers the login: the listener is told of a failed
connection while `State` is still `LOGGING_IN`. -/
theorem AsyncGDSClient.not_failureIsState : ¬ FailureIsState cfg SocketRule := by
  intro hclaim
  have hrun : ∃ s, (system cfg).Reachable SocketRule s ∧ 0 < s.shared.failures ∧
      s.shared.state = .loggingIn :=
    System.exists_reachable (connecting ++ opening 1 ++ [.raise .closed] ++ steps 5 2)
      (by decide +kernel)
  obtain ⟨s, hreach, htold, hstate⟩ := hrun
  have hfailed := hclaim s hreach htold
  rw [hstate] at hfailed
  cases hfailed

open Scenario in
/-- The login is not answered in time, and the client is closed afterwards. -/
theorem AsyncGDSClient.failureIsState_timeout : ∃ s,
    (system cfg).Reachable (WhenMoving KeepsFailure) s ∧
      0 < s.shared.failures ∧ s.shared.state = .failed := by
  have hrun : ∃ s, (system cfg).Reachable (WhenMoving KeepsFailure) s ∧ 0 < s.shared.failures :=
    System.exists_reachable (connecting ++ opening 1 ++ [.expire 0] ++ steps 3 0 ++
      [.call .close] ++ steps 3 2) (by decide +kernel)
  obtain ⟨s, hreach, htold⟩ := hrun
  exact ⟨s, hreach, htold, failureIsState cfg s hreach htold⟩

end Gds
