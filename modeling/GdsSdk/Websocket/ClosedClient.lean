import GdsSdk.Websocket.SingleUse

/-!
# A closed client

After `Close()` the client should neither open the socket nor send its login message.  Both happen
when `Close()` comes between two steps of the methods that do: the thread of `Connect()` opens the
socket without looking at `State` again, and `OnSocketOpened` sends the login message if it finds
`DISCONNECTED`.  In runs in which `Close()` is not completed in between, and `OnSocketOpened` does
not find a client disconnected that was closed, a closed client does not log in.
-/

namespace Gds

open Transition AsyncGDSClient

/-- Once `Close()` has completed, the client neither calls `Open()` nor sends its login message
any more. -/
def StaysClosed (cfg : Config) (ok : Guard Client Label) : Prop :=
  ∀ s s', (system cfg).Reachable ok s → s.shared.log.any Event.isCloseReturned = true →
    (system cfg).Reaches ok s s' →
    s'.shared.log.countP Event.isLogin = s.shared.log.countP Event.isLogin

/-- A thread that is bound to open the socket or to send the login message. -/
def Pc.isOpening : Pc → Bool
  | .connect .start | .connect .subscribe | .connect .openSocket | .opened (.send _) => true
  | _ => false

/-- The last step of `Close()`. -/
def Pc.isCloseEnd : Pc → Bool
  | .close _ .closeSocket => true
  | _ => false

/-- The first compare-and-exchange of `OnSocketOpened`. -/
def Pc.isOpenedTest : Pc → Bool
  | .opened (.compareExchangeConnected _) => true
  | _ => false

/-- `Close()` completes only while no thread is bound to open the socket or to send the login
message, and `OnSocketOpened` does not find `DISCONNECTED` after that. -/
def ClosesAlone (s : Client) (_ : ℕ) (pc : Pc) : Prop :=
  (pc.isCloseEnd = true → ∀ q ∈ s.threads, q.isOpening = false) ∧
  (pc.isOpenedTest = true → s.shared.log.any Event.isCloseReturned = true →
    s.shared.state ≠ .disconnected)

instance (s : Client) (i : ℕ) (pc : Pc) : Decidable (ClosesAlone s i pc) :=
  inferInstanceAs (Decidable (_ ∧ _))

/-- A client that was closed has come to its end, and no thread is bound to log in. -/
def ClosedSafe (s : Client) : Prop :=
  s.shared.log.any Event.isCloseReturned = true →
    s.shared.state.Terminal ∧ ∀ q ∈ s.threads, q.isOpening = false

namespace Move

variable {cfg : Config} {i : ℕ} {sh sh' : Shared} {pc pc' : Pc}

/-- A close that has completed did so before the move, or in its last step. -/
lemma closeReturned (h : Move cfg i sh pc sh' pc')
    (hlog : sh'.log.any Event.isCloseReturned = true) :
    sh.log.any Event.isCloseReturned = true ∨ pc.isCloseEnd = true := by
  cases h with
  | closeReturns => exact .inr rfl
  | _ => exact .inl (by simpa [Event.isCloseReturned] using hlog)

/-- At the end no thread becomes bound to log in, unless `OnSocketOpened` finds `DISCONNECTED`. -/
lemma not_isOpening (h : Move cfg i sh pc sh' pc') (hterminal : sh.state.Terminal)
    (htest : pc.isOpenedTest = true → sh.state ≠ .disconnected) (hpc : pc.isOpening = false) :
    pc'.isOpening = false := by
  cases h with
  | connectStarts h | openedConnects _ h =>
    rw [h] at hterminal
    exact absurd hterminal (by decide)
  | connectReturns | subscribes => cases hpc
  | openedTolerates _ h => exact absurd h (htest rfl)
  | closeReturns caller => cases caller <;> rfl
  | _ => rfl

/-- Only a thread that is bound to log in opens the socket or sends the login message. -/
lemma logins_eq (h : Move cfg i sh pc sh' pc') (hpc : pc.isOpening = false) :
    sh'.log.countP Event.isLogin = sh.log.countP Event.isLogin := by
  cases h with
  | opens | loginSent => cases hpc
  | _ => simp [Event.isLogin]

end Move

namespace AsyncGDSClient

variable {cfg : Config} {s s' : Client} {l : Label}

/-- A move under the condition leaves a client that was closed safe. -/
lemma closedSafe_move {i : ℕ} {pc pc' : Pc} {sh' : Shared}
    (hlife : s.Annotated Lifecycle (Knows cfg)) (hs : ClosedSafe s)
    (hpc : s.threads[i]? = some pc) (hm : Move cfg i s.shared pc sh' pc')
    (hguard : ClosesAlone s i pc) : ClosedSafe ⟨sh', s.threads.set i pc'⟩ := by
  intro hclosed
  have hmem := List.mem_of_getElem? hpc
  rcases hm.closeReturned hclosed with hold | hend
  · obtain ⟨hterminal, hthreads⟩ := hs hold
    have hpc' := hm.not_isOpening hterminal (fun h => hguard.2 h hold) (hthreads pc hmem)
    exact ⟨hm.progress.terminal hterminal, Pool.forall_set hthreads hpc'⟩
  · have hthreads := hguard.1 hend
    cases hm with
    | closeReturns caller =>
      have hterminal := (hlife.at hpc).atEnd (by simp [Pc.atEnd, ClosePc.isLate])
      exact ⟨hterminal, Pool.forall_set hthreads (by cases caller <;> rfl)⟩
    | _ => cases hend

/-- A step under the condition leaves a client that was closed safe. -/
lemma closedSafe_step (hlife : s.Annotated Lifecycle (Knows cfg)) (hs : ClosedSafe s)
    (hl : WhenMoving ClosesAlone s l) (hstep : step cfg s l = some s') : ClosedSafe s' := by
  rcases step_cases hstep with ⟨c, -, rfl⟩ | ⟨e, -, -, rfl⟩ | ⟨i, pc, sh', pc', hi, hpc, hm, rfl⟩
  · intro hclosed
    obtain ⟨hterminal, hthreads⟩ := hs hclosed
    exact ⟨hterminal, Pool.forall_spawn hthreads (by cases c <;> rfl)⟩
  · intro hclosed
    obtain ⟨hterminal, hthreads⟩ := hs hclosed
    exact ⟨hterminal, Pool.forall_spawn hthreads (by cases e <;> rfl)⟩
  · exact closedSafe_move hlife hs hpc hm (hl i hi pc hpc)

/-- A closed client neither opens the socket nor sends its login message, if `Close()` completes
only while no thread is bound to, and `OnSocketOpened` does not find `DISCONNECTED` after that. -/
theorem staysClosed (cfg : Config) : StaysClosed cfg (WhenMoving ClosesAlone) := by
  intro s s' h hclosed hrun
  have hsafe : ∀ t, (system cfg).Reachable (WhenMoving ClosesAlone) t → ClosedSafe t := by
    intro t ht
    refine ht.invariant_of (J := fun t => t.Annotated Lifecycle (Knows cfg)) (I := ClosedSafe)
      (fun t ht => lifecycle ht) ?_ fun t l t' hlife ht hl hstep =>
        closedSafe_step hlife ht hl hstep
    intro hclosed
    simp [system, Shared.init] at hclosed
  have key : (system cfg).Reachable (WhenMoving ClosesAlone) s' ∧
      s'.shared.log.any Event.isCloseReturned = true ∧
      s'.shared.log.countP Event.isLogin = s.shared.log.countP Event.isLogin := by
    refine hrun.invariant (I := fun t => (system cfg).Reachable (WhenMoving ClosesAlone) t ∧
      t.shared.log.any Event.isCloseReturned = true ∧
      t.shared.log.countP Event.isLogin = s.shared.log.countP Event.isLogin) ?_ ⟨h, hclosed, rfl⟩
    rintro t l t' ⟨hreach, hin, hlogins⟩ hl hstep
    refine ⟨hreach.step hl hstep, (step_progress hstep).any_log hin, ?_⟩
    rw [← hlogins]
    rcases step_cases hstep with ⟨c, -, rfl⟩ | ⟨e, -, -, rfl⟩ | ⟨i, pc, sh', pc', -, hpc, hm, rfl⟩
    · rfl
    · rfl
    · exact hm.logins_eq ((hsafe t hreach hin).2 pc (List.mem_of_getElem? hpc))
  exact key.2.2

end AsyncGDSClient

open Scenario in
/-- The client is closed while the socket is being opened: when it is open, `OnSocketOpened` sends
the login message. -/
theorem AsyncGDSClient.not_staysClosed : ¬ StaysClosed cfg SocketRule := by
  intro hclaim
  have hrun : ∃ s, (system cfg).Reachable SocketRule s ∧
      (s.shared.log.any Event.isCloseReturned = true ∧ s.shared.log.countP Event.isLogin = 1) ∧
      ((system cfg).exec SocketRule ([.raise (.opened stamp)] ++ steps 3 2) s).any
        (fun t => decide (t.shared.log.countP Event.isLogin = 2)) = true :=
    System.exists_reachable (connecting ++ [.call .close] ++ steps 4 1) (by decide +kernel)
  obtain ⟨s, hreach, ⟨hclosed, hone⟩, hexec⟩ := hrun
  obtain ⟨s', hrun', htwo⟩ := System.exists_reaches _ hexec
  have heq := hclaim s s' hreach hclosed hrun'
  omega

open Scenario in
/-- A client that is closed before it connects. -/
theorem AsyncGDSClient.staysClosed_connect : ∃ s s',
    (system cfg).Reachable (WhenMoving ClosesAlone) s ∧
    s.shared.log.any Event.isCloseReturned = true ∧
    (system cfg).Reaches (WhenMoving ClosesAlone) s s' ∧ s'.threads.length = 2 ∧
    s'.shared.log.countP Event.isLogin = s.shared.log.countP Event.isLogin := by
  have hrun : ∃ s, (system cfg).Reachable (WhenMoving ClosesAlone) s ∧
      s.shared.log.any Event.isCloseReturned = true ∧
      ((system cfg).exec (WhenMoving ClosesAlone) ([.call .connect] ++ steps 1 1) s).any
        (fun t => decide (t.threads.length = 2)) = true :=
    System.exists_reachable ([.call .close] ++ steps 4 0) (by decide +kernel)
  obtain ⟨s, hreach, hclosed, hexec⟩ := hrun
  obtain ⟨s', hrun', htwo⟩ := System.exists_reaches _ hexec
  exact ⟨s, s', hreach, hclosed, hrun', htwo, staysClosed cfg s s' hreach hclosed hrun'⟩

end Gds
