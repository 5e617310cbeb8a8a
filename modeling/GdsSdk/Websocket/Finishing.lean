import GdsSdk.Transition.Progress
import GdsSdk.Websocket.Moves

/-!
# Every call comes to its end

No method of the client and no callback waits for another thread, the wait of `Connect()` for the
login apart, and that one ends with its timeout.  So every call comes to its end within a bounded
number of its own steps, whatever the other threads do in between, and the client comes to rest as
soon as nothing more comes from outside.
-/

namespace Gds

open Transition

/-- How many steps the caller of `Close()` has after it. -/
def CloseCaller.rank : CloseCaller → ℕ
  | user => 0
  | dispose | rejection _ _ => 1

/-- How many steps a thread has before it at most. -/
def Pc.rank : Pc → ℕ
  | .connect .compareExchange => 9
  | .connect .start => 8
  | .connect .subscribe => 7
  | .connect .openSocket => 6
  | .connect .compareExchangeConnecting => 5
  | .connect .wait => 4
  | .connect .readState => 3
  | .connect .writeFailed => 2
  | .connect .onConnectionFailure => 1
  | .opened (.exchange _) => 4
  | .opened (.compareExchangeConnected _) => 3
  | .opened (.send _) => 2
  | .opened .compareExchangeLoggingIn => 1
  | .error (.isConnectionClosed _) => 6
  | .error (.closeSocket _) => 5
  | .error (.testFailed _ _) => 4
  | .error (.testLoggedIn _ _) => 3
  | .error (.writeFailed _ _) => 2
  | .error (.onConnectionFailure _) => 1
  | .closed .exchange => 5
  | .closed .testDisconnected => 4
  | .closed .compareExchange => 3
  | .closed .testFailed => 2
  | .closed .onConnectionFailure | .closed .onDisconnect => 1
  | .received (.decode _) => 8
  | .received (.signal _ _) => 7
  | .received (.compareExchange _ _) => 6
  | .received .readState => 1
  | .received (.onConnectionSuccess _ _) | .received (.onConnectionFailure _ _) => 1
  | .received (.deliver _ _) => 1
  | .close caller .testFailed => 4 + caller.rank
  | .close caller .writeDisconnected => 3 + caller.rank
  | .close caller .exchange => 2 + caller.rank
  | .close caller .closeSocket => 1 + caller.rank
  | .dispose .testDisposed => 7
  | .dispose .disposeCountdown => 6
  | .dispose .writeDisposed => 1
  | .sendMessage (.testLoggedIn _ _) => 2
  | .sendMessage .readState | .sendMessage (.send _ _) => 1
  | .done => 0

/-- Only a thread at its end has no step before it. -/
lemma Pc.rank_eq_zero {pc : Pc} : pc.rank = 0 ↔ pc = .done := by
  constructor
  · intro h
    unfold rank at h
    split at h <;> first | rfl | omega
  · rintro rfl
    rfl

/-- A call has no more than nine steps before it. -/
lemma Pc.rank_le (pc : Pc) : pc.rank ≤ 9 := by
  have hcaller : ∀ caller : CloseCaller, caller.rank ≤ 1 := by
    intro caller
    cases caller <;> simp [CloseCaller.rank]
  unfold rank
  split <;> first | omega | (rename_i caller; have := hcaller caller; omega)

namespace Move

variable {cfg : Config} {i : ℕ} {sh sh' : Shared} {pc pc' : Pc}

/-- A move comes closer to the end of its thread. -/
lemma rank_lt (h : Move cfg i sh pc sh' pc') : pc'.rank < pc.rank := by
  cases h with
  | closeReturns caller => cases caller <;> simp [CloseCaller.next, Pc.rank, CloseCaller.rank]
  | _ => simp [Pc.rank, CloseCaller.rank]

end Move

/-! ## The next step of each method -/

section Next

variable (cfg : Config) (i : ℕ) (sh : Shared)

lemma connect_isSome (pc : ConnectPc) (hpc : pc ≠ .wait) : (connect cfg i sh pc).isSome := by
  cases pc with
  | wait => exact absurd rfl hpc
  | compareExchange =>
    simp only [connect]
    split <;> rfl
  | readState =>
    simp only [connect]
    split <;> rfl
  | _ => rfl

lemma onSocketOpened_isSome (pc : OnSocketOpenedPc) : (onSocketOpened cfg i sh pc).isSome := by
  cases pc with
  | exchange => rfl
  | _ =>
    simp only [onSocketOpened]
    split <;> rfl

lemma onSocketError_isSome (pc : OnSocketErrorPc) : (onSocketError sh pc).isSome := by
  cases pc with
  | isConnectionClosed | testFailed | testLoggedIn =>
    simp only [onSocketError]
    split <;> rfl
  | _ => rfl

lemma onSocketClosed_isSome (pc : OnSocketClosedPc) : (onSocketClosed sh pc).isSome := by
  cases pc with
  | testDisconnected | compareExchange | testFailed =>
    simp only [onSocketClosed]
    split <;> rfl
  | _ => rfl

lemma onMessageReceived_isSome (pc : OnMessageReceivedPc) :
    (onMessageReceived cfg i sh pc).isSome := by
  cases pc with
  | decode binary =>
    simp only [onMessageReceived]
    split
    · rfl
    · rfl
    · rfl
    · split <;> rfl
  | signal header ackData =>
    simp only [onMessageReceived]
    split <;> rfl
  | compareExchange header ackData =>
    simp only [onMessageReceived]
    split <;> split <;> rfl
  | readState =>
    simp only [onMessageReceived]
    split <;> rfl
  | _ => rfl

lemma close_isSome (caller : CloseCaller) (pc : ClosePc) : (close sh caller pc).isSome := by
  cases pc with
  | testFailed =>
    simp only [close]
    split <;> rfl
  | _ => rfl

lemma dispose_isSome (pc : DisposePc) : (dispose sh pc).isSome := by
  cases pc with
  | testDisposed =>
    simp only [dispose]
    split <;> rfl
  | _ => rfl

lemma sendMessage_isSome (pc : SendMessagePc) : (sendMessage cfg i sh pc).isSome := by
  cases pc with
  | testLoggedIn =>
    simp only [sendMessage]
    split <;> rfl
  | readState => rfl
  | send header data =>
    simp only [sendMessage]
    split
    · split
      · rfl
      · split <;> rfl
    · rfl

/-- A thread that is not at its end can take its next step, unless it waits for the login. -/
lemma next_isSome {pc : Pc} (hdone : pc ≠ .done) (hwait : pc ≠ .connect .wait) :
    (next cfg i sh pc).isSome := by
  cases pc with
  | connect pc => exact connect_isSome cfg i sh pc fun heq => hwait (by rw [heq])
  | opened pc => exact onSocketOpened_isSome cfg i sh pc
  | error pc => exact onSocketError_isSome sh pc
  | closed pc => exact onSocketClosed_isSome sh pc
  | received pc => exact onMessageReceived_isSome cfg i sh pc
  | close caller pc => exact close_isSome sh caller pc
  | dispose pc => exact dispose_isSome sh pc
  | sendMessage pc => exact sendMessage_isSome cfg i sh pc
  | done => exact absurd rfl hdone

/-- The wait for the login ends with the signal or with the timeout. -/
lemma wait_isSome :
    (next cfg i sh (.connect .wait)).isSome ∨ (expire sh (.connect .wait)).isSome := by
  by_cases hcount : sh.countdown.currentCount = 0
  · exact .inl (by simp [next, connect, hcount])
  · exact .inr (by simp [expire, hcount])

end Next

/-! ## The client -/

namespace AsyncGDSClient

variable {cfg : Config} {s s' : Client} {i : ℕ} {pc : Pc}

/-- The steps of the threads themselves: nothing more comes from outside. -/
def OwnSteps : Guard Client Label := fun _ l => l.thread ≠ none

/-- A thread that is not at its end can move. -/
lemma exists_move (cfg : Config) (hpc : s.threads[i]? = some pc) (hdone : pc ≠ .done) :
    ∃ l s', l.thread = some i ∧ step cfg s l = some s' := by
  have hmove : ∀ f : Shared → Pc → Option (Shared × Pc), (f s.shared pc).isSome →
      ∃ s', s.move i f = some s' := by
    intro f hf
    obtain ⟨⟨sh', pc'⟩, hnext⟩ := Option.isSome_iff_exists.mp hf
    exact ⟨_, Pool.move_eq_some.mpr ⟨pc, sh', pc', hpc, hnext, rfl⟩⟩
  by_cases hwait : pc = .connect .wait
  · subst hwait
    rcases wait_isSome cfg i s.shared with hnext | hexpire
    · obtain ⟨s', hs'⟩ := hmove (next cfg i) hnext
      exact ⟨.step i, s', rfl, hs'⟩
    · obtain ⟨s', hs'⟩ := hmove expire hexpire
      exact ⟨.expire i, s', rfl, hs'⟩
  · obtain ⟨s', hs'⟩ := hmove (next cfg i) (next_isSome cfg i s.shared hdone hwait)
    exact ⟨.step i, s', rfl, hs'⟩

/-- A step of a thread leaves less to do. -/
lemma work_lt {l : Label} (hl : l.thread ≠ none) (h : step cfg s l = some s') :
    s'.work Pc.rank < s.work Pc.rank := by
  rcases step_cases h with ⟨c, rfl, -⟩ | ⟨e, rfl, -⟩ | ⟨i, pc, sh', pc', -, hpc, hm, rfl⟩
  · exact absurd rfl hl
  · exact absurd rfl hl
  · exact Pool.work_set_lt hpc hm.rank_lt

/-- A step raises the rank of no thread, and lowers that of the thread that moves. -/
lemma rankAt_step {l : Label} (hpc : s.threads[i]? = some pc) (h : step cfg s l = some s') :
    (∃ pc', s'.threads[i]? = some pc') ∧
      s'.rankAt Pc.rank i + (decide (l.thread = some i)).toNat ≤ s.rankAt Pc.rank i := by
  rcases step_cases h with ⟨c, rfl, rfl⟩ | ⟨e, rfl, -, rfl⟩ |
    ⟨j, q, sh', q', hthread, hq, hm, rfl⟩
  · refine ⟨⟨pc, Pool.at_spawn hpc⟩, ?_⟩
    rw [Pool.rankAt_spawn hpc]
    exact Nat.le_refl _
  · refine ⟨⟨pc, Pool.at_spawn hpc⟩, ?_⟩
    rw [Pool.rankAt_spawn hpc]
    exact Nat.le_refl _
  · rw [hthread]
    by_cases hij : i = j
    · subst hij
      refine ⟨⟨q', Pool.at_set hq⟩, ?_⟩
      have hlt := hm.rank_lt
      rw [Pool.rankAt_set_self hq, Pool.rankAt_eq hq]
      simp only [decide_true, Bool.toNat_true]
      omega
    · refine ⟨⟨pc, by rwa [List.getElem?_set_ne (Ne.symm hij)]⟩, ?_⟩
      have hne : ¬ some j = some i := fun heq => hij (Option.some.inj heq).symm
      rw [Pool.rankAt_set_ne hij, decide_eq_false hne]
      exact Nat.le_refl _

/-- Without any further call or event the client comes to rest. -/
lemma exists_rest (cfg : Config) (s : Client) :
    ∃ s', (system cfg).Reaches OwnSteps s s' ∧ ∀ pc ∈ s'.threads, pc = .done := by
  have hnext : ∀ s : Client, True → ¬ (∀ pc ∈ s.threads, pc.rank = 0) →
      ∃ s', (system cfg).Reaches OwnSteps s s' ∧ True ∧ s'.work Pc.rank < s.work Pc.rank := by
    intro s _ hbusy
    obtain ⟨i, pc, hpc, hpos⟩ := Pool.exists_rank_pos hbusy
    have hdone : pc ≠ .done := fun heq => Nat.ne_of_gt hpos (Pc.rank_eq_zero.mpr heq)
    obtain ⟨l, s', hthread, hstep⟩ := exists_move cfg hpc hdone
    have hl : l.thread ≠ none := by
      rw [hthread]
      simp
    exact ⟨s', (System.Reaches.refl s).step hl hstep, trivial, work_lt hl hstep⟩
  obtain ⟨s', hrun, -, hdone⟩ := System.exists_rest _ _ _ hnext (s := s) trivial
  exact ⟨s', hrun, fun pc hpc => Pc.rank_eq_zero.mp (hdone pc hpc)⟩

/-- In every state of a client, whatever the calls of the user and the events of the socket were
and in whatever order the threads go on: a call or a callback takes no more steps than its rank
says, at most nine, however many steps the others take in between; while it is not at its end it
can move, whatever the others have done; and without any further call or event all threads come to
their ends. -/
theorem callsFinish (cfg : Config) (s : Client) :
    (∀ i pc, s.threads[i]? = some pc → pc.rank ≤ 9 ∧
      ∀ ls s', (system cfg).Takes Unrestricted ls s s' →
        ls.countP (fun l => l.thread = some i) ≤ pc.rank) ∧
    (∀ i pc, s.threads[i]? = some pc → pc ≠ .done →
      ∃ l s', l.thread = some i ∧ step cfg s l = some s') ∧
    ∃ s', (system cfg).Reaches OwnSteps s s' ∧ ∀ pc ∈ s'.threads, pc = .done := by
  refine ⟨fun i pc hpc => ⟨pc.rank_le, fun ls s' htakes => ?_⟩,
    fun i pc hpc hdone => exists_move cfg hpc hdone, exists_rest cfg s⟩
  have hbound := htakes.countP_le (fun s => ∃ pc : Pc, s.threads[i]? = some pc)
    (Pool.rankAt Pc.rank i) (fun l => l.thread = some i)
    (fun t l t' ⟨q, hq⟩ _ hstep => rankAt_step hq hstep) ⟨pc, hpc⟩
  rw [Pool.rankAt_eq hpc] at hbound
  exact Nat.le_trans (Nat.le_add_right _ _) hbound

end AsyncGDSClient

end Gds
