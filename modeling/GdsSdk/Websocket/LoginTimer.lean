import GdsSdk.Websocket.LoginProgress

/-!
# The login timer and acknowledgements that are not accepted

An acknowledgement that comes when `State` is not `LOGGING_IN` should not touch the countdown that
`Connect()` waits for, and the countdown should never be signalled once more than it counts.  But
the handler of an acknowledgement signals the countdown before it looks at `State`.  What it does
after that does no harm in any run: `unaccepted_spares`.  The signal does none exactly in the runs in
which every acknowledgement is handled in turn: not after the login was decided, not before `State`
is `LOGGING_IN`, and with no other acknowledgement, no `Dispose()` and no end of the client between
its two steps.
-/

namespace Gds

open Transition AsyncGDSClient

/-- An event that is a call of the listener. -/
def Event.isListenerCall : Event → Bool
  | onConnectionSuccess _ _ | onConnectionFailure _ | onDisconnect | delivered _ _ => true
  | _ => false

/-- The calls of the listener, newest first. -/
def Shared.listenerCalls (sh : Shared) : List Event := sh.log.filter Event.isListenerCall

/-- The thread is about to find that its acknowledgement is not accepted, or has found it. -/
def Pc.isUnaccepted (sh : Shared) : Pc → Bool
  | .received (.compareExchange _ _) => decide (sh.state ≠ .loggingIn)
  | .received .readState => true
  | _ => false

/-- In a run thread `i` takes a step from a program point with the property `f`. -/
structure StepsFrom (cfg : Config) (ok : Guard Client Label) (f : Shared → Pc → Bool) (i : ℕ)
    (s s' : Client) : Prop where
  reachable : (system cfg).Reachable ok s
  allowed : ok s (.step i)
  step : step cfg s (.step i) = some s'
  point : ∃ pc ∈ s.threads[i]?, f s.shared pc = true

/-- Acknowledgements that are not accepted leave the login timer alone. -/
structure SparesTimer (cfg : Config) (ok : Guard Client Label) : Prop where
  /-- The countdown is neither at zero nor disposed when it is signalled. -/
  signal : ∀ i s s', StepsFrom cfg ok (fun _ => Pc.isSignalling) i s s' →
    s.shared.countdown.currentCount ≠ 0 ∧ s.shared.countdown.disposed = false
  /-- The handler of an acknowledgement that turns out not to be accepted has not changed the
  countdown. -/
  countdown : ∀ i s s' t t', StepsFrom cfg ok (fun _ => Pc.isSignalling) i s s' →
    (system cfg).Reaches ok s' t → StepsFrom cfg ok Pc.isUnaccepted i t t' →
    s'.shared.countdown = s.shared.countdown
  /-- From there on it changes neither `State` nor the countdown, and does not call the
  listener. -/
  unaccepted : ∀ i s s', StepsFrom cfg ok Pc.isUnaccepted i s s' →
    s'.shared.state = s.shared.state ∧ s'.shared.countdown = s.shared.countdown ∧
      s'.shared.listenerCalls = s.shared.listenerCalls

/-- The thread is about to bring the client to its end. -/
def Pc.isEnding : Pc → Bool
  | .connect .writeFailed | .error (.writeFailed _ _) | .close _ .writeDisconnected => true
  | _ => false

/-- An acknowledgement is handled in turn: the countdown is signalled while the login is not yet
decided, no other acknowledgement is between the signal and the compare-and-exchange, and no
`Dispose()` has disposed of the countdown and not yet closed; the compare-and-exchange is not
taken before `State` is `LOGGING_IN`; and nothing brings the client to its end between the two. -/
structure HandledInTurn (s : Client) (_ : ℕ) (pc : Pc) : Prop where
  signal : pc.isSignalling = true →
    s.shared.state.stage ≤ 4 ∧ ∀ q ∈ s.threads, q.isAnswering = false ∧ q.isDisposing = false
  answer : pc.isAnswering = true → 4 ≤ s.shared.state.stage
  ending : pc.isEnding = true → ∀ q ∈ s.threads, q.isAnswering = false

instance (s : Client) (i : ℕ) (pc : Pc) : Decidable (HandledInTurn s i pc) :=
  decidable_of_iff ((pc.isSignalling = true → s.shared.state.stage ≤ 4 ∧
      ∀ q ∈ s.threads, q.isAnswering = false ∧ q.isDisposing = false) ∧
    (pc.isAnswering = true → 4 ≤ s.shared.state.stage) ∧
    (pc.isEnding = true → ∀ q ∈ s.threads, q.isAnswering = false))
    ⟨fun ⟨signal, answer, ending⟩ => ⟨signal, answer, ending⟩,
      fun h => ⟨h.signal, h.answer, h.ending⟩⟩

/-- While an acknowledgement is between its two steps it is the only one, and the login is not yet
decided; and none was found not to be accepted. -/
structure OneAnswer (s : Client) : Prop where
  single : s.threads.countP Pc.isAnswering ≤ 1
  undecided : ∀ q ∈ s.threads, q.isAnswering = true → s.shared.state.stage ≤ 4
  accepted : ∀ q ∈ s.threads, q ≠ .received .readState

namespace Move

variable {cfg : Config} {i : ℕ} {sh sh' : Shared} {pc pc' : Pc}

/-- Only the signal leads to the compare-and-exchange of an acknowledgement, and it leaves `State`
as it is. -/
lemma isSignalling_of_isAnswering (h : Move cfg i sh pc sh' pc') (hpc' : pc'.isAnswering = true) :
    pc.isSignalling = true ∧ sh'.state = sh.state := by
  cases h with
  | signals => exact ⟨rfl, rfl⟩
  | closeReturns caller => cases caller <;> cases hpc'
  | _ => cases hpc'

/-- The login is decided by the handler of an acknowledgement or by a thread that ends the
client. -/
lemma undecided (h : Move cfg i sh pc sh' pc') (hstage : sh.state.stage ≤ 4)
    (hanswer : pc.isAnswering = false) (hending : pc.isEnding = false) :
    sh'.state.stage ≤ 4 := by
  cases h with
  | connectStarts | connecting | openedConnects | loggingIn => simp [ConnectionState.stage]
  | closedDisconnects hs =>
    rw [hs] at hstage
    exact absurd hstage (by decide)
  | accepts | rejects => cases hanswer
  | timeoutFails | errorFails | closeDisconnects => cases hending
  | _ => exact hstage

/-- An acknowledgement is not accepted in another state than `LOGGING_IN`. -/
lemma isAnswering_of_readState (h : Move cfg i sh pc sh' (.received .readState)) :
    pc.isAnswering = true ∧ sh.state ≠ .loggingIn := by
  generalize hpc' : Pc.received .readState = pc' at h
  cases h with
  | ackOutOfTurn _ _ hs => exact ⟨rfl, hs⟩
  | closeReturns caller => cases caller <;> cases hpc'
  | _ => cases hpc'

/-- Finding that an acknowledgement is not accepted changes neither `State` nor the countdown, and
the listener is not called. -/
lemma unaccepted (h : Move cfg i sh pc sh' pc') (hpc : pc.isUnaccepted sh = true) :
    sh'.state = sh.state ∧ sh'.countdown = sh.countdown ∧
      sh'.listenerCalls = sh.listenerCalls := by
  cases h with
  | rejects _ _ _ hs | accepts _ _ _ hs => simp [Pc.isUnaccepted, hs] at hpc
  | ackOutOfTurn | ackReturns => exact ⟨rfl, rfl, rfl⟩
  | ackThrows => exact ⟨rfl, rfl, rfl⟩
  | _ => cases hpc

end Move

namespace AsyncGDSClient

variable {cfg : Config} {ok : Guard Client Label} {s s' : Client} {l : Label}

/-- In every run, whatever the condition on its steps is: the handler of an acknowledgement that is
not accepted changes neither `State` nor the countdown from there on, and does not call the
listener. -/
theorem unaccepted_spares {i : ℕ} (h : StepsFrom cfg ok Pc.isUnaccepted i s s') :
    s'.shared.state = s.shared.state ∧ s'.shared.countdown = s.shared.countdown ∧
      s'.shared.listenerCalls = s.shared.listenerCalls := by
  obtain ⟨pc, hpc, hunaccepted⟩ := h.point
  obtain ⟨q, sh', q', hq, hnext, rfl⟩ := Pool.move_eq_some.mp h.step
  obtain rfl : pc = q := Option.some.inj (hpc.symm.trans hq)
  have hmove : Move cfg i s.shared pc sh' q' := Move.of_next hnext
  exact hmove.unaccepted hunaccepted

/-- A move of an acknowledgement that is handled in turn leaves at most one of them between its two
steps. -/
lemma oneAnswer_move {i : ℕ} {pc pc' : Pc} {sh' : Shared} (hs : OneAnswer s)
    (hguard : HandledInTurn s i pc) (hpc : s.threads[i]? = some pc)
    (hm : Move cfg i s.shared pc sh' pc') : OneAnswer ⟨sh', s.threads.set i pc'⟩ := by
  have hcount := Pool.countP_set_add Pc.isAnswering pc' hpc
  have hsingle := hs.single
  have hmem : pc ∈ s.threads := List.mem_of_getElem? hpc
  refine ⟨?_, ?_, ?_⟩
  · by_cases hpc' : pc'.isAnswering = true
    · -- the thread has signalled, and no other one was between the two steps
      have hnone := (hguard.signal (hm.isSignalling_of_isAnswering hpc').1).2
      have hzero : s.threads.countP Pc.isAnswering = 0 := by
        refine List.countP_eq_zero.mpr fun q hq => ?_
        simp [(hnone q hq).1]
      have := Bool.toNat_le pc'.isAnswering
      simp only
      omega
    · simp only [Bool.not_eq_true] at hpc'
      rw [hpc', Bool.toNat_false] at hcount
      simp only
      omega
  · intro q hq hanswering
    by_cases hpc' : pc'.isAnswering = true
    · obtain ⟨hsignalling, hstate⟩ := hm.isSignalling_of_isAnswering hpc'
      simp only [hstate]
      exact (hguard.signal hsignalling).1
    · simp only [Bool.not_eq_true] at hpc'
      have hold : q ∈ s.threads := by
        rcases List.mem_or_eq_of_mem_set hq with hold | rfl
        · exact hold
        · rw [hpc'] at hanswering
          cases hanswering
      have hpos : 0 < (s.threads.set i pc').countP Pc.isAnswering :=
        List.countP_pos_iff.mpr ⟨q, hq, hanswering⟩
      have hanswer : pc.isAnswering = false := by
        by_contra hne
        rw [Bool.not_eq_false] at hne
        rw [hpc', hne] at hcount
        simp only [Bool.toNat_true, Bool.toNat_false] at hcount
        omega
      have hending : pc.isEnding = false := by
        by_contra hne
        rw [Bool.not_eq_false] at hne
        rw [hguard.ending hne q hold] at hanswering
        cases hanswering
      exact hm.undecided (hs.undecided q hold hanswering) hanswer hending
  · intro q hq
    rcases List.mem_or_eq_of_mem_set hq with hold | rfl
    · exact hs.accepted q hold
    · rintro rfl
      obtain ⟨hanswer, hne⟩ := hm.isAnswering_of_readState
      have hle := hs.undecided pc hmem hanswer
      have hge := hguard.answer hanswer
      exact hne (ConnectionState.eq_of_stage_eq (t := .loggingIn) (Nat.le_antisymm hle hge)
        (by decide))

/-- In a run in which acknowledgements are handled in turn, at most one of them is between its two
steps, and none is not accepted. -/
lemma oneAnswer (h : (system cfg).Reachable (WhenMoving HandledInTurn) s) : OneAnswer s := by
  refine h.invariant ⟨by simp [system], by simp [system], by simp [system]⟩ ?_
  intro s l s' hs hl hstep
  have hspawn : ∀ (sh : Shared) (pc : Pc), sh.state = s.shared.state →
      pc.isAnswering = false → pc ≠ .received .readState → OneAnswer (s.spawn sh pc) := by
    intro sh pc hstate hpc hne
    refine ⟨?_, ?_, Pool.forall_spawn hs.accepted hne⟩
    · simp only [Pool.spawn, Pool.countP_append_singleton, hpc, Bool.toNat_false]
      exact hs.single
    · refine Pool.forall_spawn (fun q hq => ?_) (fun hanswering => ?_)
      · simp only [Pool.spawn, hstate]
        exact hs.undecided q hq
      · rw [hpc] at hanswering
        cases hanswering
  rcases step_cases hstep with ⟨c, -, rfl⟩ | ⟨e, -, -, rfl⟩ | ⟨i, pc, sh', pc', hi, hpc, hm, rfl⟩
  · cases c <;> exact hspawn _ _ rfl rfl (by simp [Call.start])
  · cases e <;> exact hspawn _ _ rfl rfl (by simp [SocketEvent.start])
  · exact oneAnswer_move hs (hl i hi pc hpc) hpc hm

/-- When an acknowledgement is handled in turn, the countdown can be signalled. -/
lemma countdown_of_handledInTurn (h : (system cfg).Reachable (WhenMoving HandledInTurn) s) {i : ℕ}
    {pc : Pc} (hguard : HandledInTurn s i pc) (hpc : pc.isSignalling = true) :
    s.shared.countdown.currentCount ≠ 0 ∧ s.shared.countdown.disposed = false := by
  obtain ⟨hstage, hothers⟩ := hguard.signal hpc
  have hinTurn : (system cfg).Reachable (WhenMoving AckInTurn) s :=
    h.mono fun _ _ hl j hj q hq => (hl j hj q hq).answer
  have hcount : CountSettled s.shared :=
    (count_pending hinTurn).settled fun q hq => (hothers q hq).1
  have hdispose : DisposeSettled s.shared :=
    (dispose_pending h).settled fun q hq => (hothers q hq).2
  refine ⟨fun hzero => ?_, ?_⟩
  · have := hcount hzero
    omega
  · by_contra hne
    rw [Bool.not_eq_false] at hne
    have := hdispose hne
    omega

/-- In a run in which acknowledgements are handled in turn no step finds one that is not
accepted. -/
lemma not_unaccepted {i : ℕ}
    (h : StepsFrom cfg (WhenMoving HandledInTurn) Pc.isUnaccepted i s s') : False := by
  obtain ⟨pc, hpc, hunaccepted⟩ := h.point
  have hone := oneAnswer h.reachable
  have hmem : pc ∈ s.threads := List.mem_of_getElem? hpc
  have hguard : HandledInTurn s i pc := h.allowed i rfl pc hpc
  unfold Pc.isUnaccepted at hunaccepted
  split at hunaccepted
  · -- the login is not decided before the compare-and-exchange, nor is it taken too early
    have hle := hone.undecided _ hmem rfl
    have hge := hguard.answer rfl
    have hstate : s.shared.state = .loggingIn :=
      ConnectionState.eq_of_stage_eq (Nat.le_antisymm hle hge) (by decide)
    simp [hstate] at hunaccepted
  · exact hone.accepted _ hmem rfl
  · cases hunaccepted

/-- If every acknowledgement is handled in turn, the countdown is only signalled when it counts,
and no acknowledgement that is not accepted touches it. -/
theorem sparesTimer (cfg : Config) : SparesTimer cfg (WhenMoving HandledInTurn) where
  signal i s s' h := by
    obtain ⟨pc, hpc, hsignalling⟩ := h.point
    exact countdown_of_handledInTurn h.reachable (h.allowed i rfl pc hpc) hsignalling
  countdown i s s' t t' _ _ h := (not_unaccepted h).elim
  unaccepted _ _ _ h := unaccepted_spares h

end AsyncGDSClient

namespace Scenario

/-- The user closes the client while the login is under way, and the acknowledgement comes after
that. -/
def acknowledgedLate : List Label :=
  connecting ++ opening 1 ++ [.call .close] ++ steps 4 2 ++ [.raise (.dataReceived positiveAck)] ++
    steps 1 3

end Scenario

open Scenario in
/-- An acknowledgement that finds the client disconnected has signalled the countdown. -/
theorem AsyncGDSClient.not_sparesTimer : ¬ SparesTimer cfg SocketRule := by
  intro hclaim
  have hrun : ∃ s, (system cfg).Reachable SocketRule s ∧
      (s.threads[3]?.any Pc.isSignalling = true ∧
        ((step cfg s (.step 3)).any fun s' =>
          s'.threads[3]?.any (Pc.isUnaccepted s'.shared) && (step cfg s' (.step 3)).isSome &&
            decide (s'.shared.countdown ≠ s.shared.countdown)) = true) :=
    System.exists_reachable acknowledgedLate (by decide +kernel)
  obtain ⟨s, hreach, hsignal, hexec⟩ := hrun
  obtain ⟨s', hstep, hs'⟩ := (Option.any_eq_true _ _).mp hexec
  simp only [Bool.and_eq_true, decide_eq_true_eq] at hs'
  obtain ⟨⟨hunaccepted, hnext⟩, hne⟩ := hs'
  obtain ⟨t, ht⟩ := Option.isSome_iff_exists.mp hnext
  have hrule : ∀ u : Client, SocketRule u (.step 3) := fun _ => ⟨trivial, trivial⟩
  have hreach' : (system cfg).Reachable SocketRule s' := hreach.step (hrule s) hstep
  have hfirst : StepsFrom cfg SocketRule (fun _ => Pc.isSignalling) 3 s s' :=
    ⟨hreach, hrule s, hstep, (Option.any_eq_true _ _).mp hsignal⟩
  have hsecond : StepsFrom cfg SocketRule Pc.isUnaccepted 3 s' t :=
    ⟨hreach', hrule s', ht, (Option.any_eq_true _ _).mp hunaccepted⟩
  exact hne (hclaim.countdown 3 s s' s' t hfirst (System.Reaches.refl s') hsecond)

open Scenario in
/-- In the undisturbed login the countdown is signalled when it counts. -/
theorem AsyncGDSClient.sparesTimer_login : ∃ s s',
    StepsFrom cfg (WhenMoving HandledInTurn) (fun _ => Pc.isSignalling) 2 s s' ∧
    s'.shared.countdown.currentCount = 0 ∧ s.shared.countdown.currentCount ≠ 0 := by
  have hrun : ∃ s, (system cfg).Reachable (WhenMoving HandledInTurn) s ∧
      (s.threads[2]?.any Pc.isSignalling = true ∧ WhenMoving HandledInTurn s (.step 2) ∧
        ((step cfg s (.step 2)).any fun s' =>
          decide (s'.shared.countdown.currentCount = 0)) = true) :=
    System.exists_reachable
      (connecting ++ opening 1 ++ [.raise (.dataReceived positiveAck)] ++ steps 1 2)
      (by decide +kernel)
  obtain ⟨s, hreach, hsignal, hguard, hexec⟩ := hrun
  obtain ⟨s', hstep, hzero⟩ := (Option.any_eq_true _ _).mp hexec
  have hfrom : StepsFrom cfg (WhenMoving HandledInTurn) (fun _ => Pc.isSignalling) 2 s s' :=
    ⟨hreach, hguard, hstep, (Option.any_eq_true _ _).mp hsignal⟩
  exact ⟨s, s', hfrom, of_decide_eq_true hzero, ((sparesTimer cfg).signal 2 s s' hfrom).1⟩

end Gds
