import GdsSdk.MsgPack.Standard
import GdsSdk.Websocket.Lifecycle

/-!
# A client is used once

In every run, whatever the order of steps and events: a client that has come to its end stays
there; at most one `Connect()` returns, and none that is called after the client has left its
first state; and the client is logged in at most once, by a positive acknowledgement that it
handles after it has sent its login message, and tells so at most once.
-/

namespace Gds

open Transition AsyncGDSClient

/-! ## Connecting at most once -/

/-- Between the compare-and-exchange of `Connect()` and its return. -/
def Pc.isStarting : Pc → Bool
  | .connect .start => true
  | _ => false

/-- Between the acceptance of an acknowledgement and the call of the listener. -/
def Pc.isSuccess : Pc → Bool
  | .received (.onConnectionSuccess _ _) => true
  | _ => false

namespace Move

variable {cfg : Config} {i : ℕ} {sh sh' : Shared} {pc pc' : Pc}

/-- Only the move out of the first state lets one more `Connect()` return. -/
lemma connectReturned_le (h : Move cfg i sh pc sh' pc') :
    sh'.log.countP Event.isConnectReturned + pc'.isStarting.toNat + min 1 sh.state.stage ≤
      sh.log.countP Event.isConnectReturned + pc.isStarting.toNat + min 1 sh'.state.stage := by
  have hstage := h.progress.stage
  cases h with
  | connectStarts h =>
    simp [h, ConnectionState.stage, Event.isConnectReturned, Pc.isStarting]
  | closeReturns caller =>
    cases caller <;> simp [Event.isConnectReturned, Pc.isStarting, CloseCaller.next]
  | _ =>
    simp [List.countP_cons, Event.isConnectReturned, Pc.isStarting] at hstage ⊢ <;> omega

/-- Only the thread of a `Connect()` that passed its compare-and-exchange lets it return. -/
lemma connectReturned_mem (h : Move cfg i sh pc sh' pc') {j : ℕ}
    (hj : .connectReturned j ∈ sh'.log) :
    .connectReturned j ∈ sh.log ∨ (j = i ∧ pc = .connect .start) := by
  cases h with
  | connectReturns =>
    rcases List.mem_cons.mp hj with hj | hj
    · cases hj
      exact .inr ⟨rfl, rfl⟩
    · exact .inl hj
  | _ => exact .inl (by simpa using hj)

/-- Every success that is due or told belongs to a login. -/
lemma success_le (h : Move cfg i sh pc sh' pc') :
    sh'.log.countP Event.isSuccess + pc'.isSuccess.toNat +
        sh.log.countP (Event.isState .loggedIn) ≤
      sh.log.countP Event.isSuccess + pc.isSuccess.toNat +
        sh'.log.countP (Event.isState .loggedIn) := by
  cases h with
  | closeReturns caller =>
    cases caller <;> simp [Event.isSuccess, Event.isState, Pc.isSuccess, CloseCaller.next]
  | _ =>
    simp [List.countP_cons, Event.isSuccess, Event.isState, Pc.isSuccess] <;> omega

/-- A client is logged in at most once, since it never goes back before its login. -/
lemma loggedIn_le_one (h : Move cfg i sh pc sh' pc') (hI : Lifecycle sh)
    (hle : sh.log.countP (Event.isState .loggedIn) ≤ 1) :
    sh'.log.countP (Event.isState .loggedIn) ≤ 1 := by
  cases h with
  | accepts header ackData hstatus h =>
    have hnot : sh.log.countP (Event.isState .loggedIn) = 0 := by
      by_contra hne
      have hentered : sh.Entered .loggedIn := by
        rw [Shared.Entered, List.any_eq_true]
        exact List.countP_pos_iff.mp (Nat.pos_of_ne_zero hne)
      have hstage := hI.stage hentered
      rw [h] at hstage
      simp [ConnectionState.stage] at hstage
    simp [Event.isState, hnot]
  | _ => simpa [Event.isState] using hle

end Move

namespace AsyncGDSClient

variable {cfg : Config} {ok : Guard Client Label} {s s' s'' : Client} {l : Label}

/-- At most one `Connect()` returns. -/
theorem connectReturned_le_one (h : (system cfg).Reachable ok s) :
    s.shared.log.countP Event.isConnectReturned ≤ 1 := by
  have key : s.shared.log.countP Event.isConnectReturned + s.threads.countP Pc.isStarting ≤
      min 1 s.shared.state.stage := by
    refine h.invariant (I := fun s => s.shared.log.countP Event.isConnectReturned +
      s.threads.countP Pc.isStarting ≤ min 1 s.shared.state.stage)
      (by simp [system, Shared.init]) fun s l s' hs _ hstep => ?_
    refine bound_step (n := fun sh => sh.log.countP Event.isConnectReturned)
      (m := fun sh => min 1 sh.state.stage) hs hstep ?_ ?_ ?_
    · intro c
      cases c <;> rfl
    · intro e _
      cases e <;> simp [SocketEvent.start, Pc.isStarting]
    · exact fun i pc sh' pc' _ _ hm => hm.connectReturned_le
  omega

/-- The history only speaks of threads that have started. -/
lemma connectReturned_lt (h : (system cfg).Reachable ok s) :
    ∀ j, .connectReturned j ∈ s.shared.log → j < s.threads.length := by
  refine h.invariant (I := fun s => ∀ j, .connectReturned j ∈ s.shared.log → j < s.threads.length)
    (by simp [system, Shared.init]) ?_
  intro s l s' hs _ hstep j hj
  · rcases step_cases hstep with ⟨c, -, rfl⟩ | ⟨e, -, -, rfl⟩ | ⟨i, pc, sh', pc', -, hpc, hm, rfl⟩
    · have := hs j hj
      simp only [Pool.spawn, List.length_append]
      omega
    · have := hs j hj
      simp only [Pool.spawn, List.length_append]
      omega
    · rw [List.length_set]
      rcases hm.connectReturned_mem hj with hj | ⟨rfl, -⟩
      · exact hs j hj
      · exact (List.getElem?_eq_some_iff.mp hpc).1

/-- A `Connect()` that is called after the client has left its first state does not return. -/
theorem connect_throws (h : (system cfg).Reachable ok s) (hs : s.shared.state ≠ .notConnected)
    (hcall : step cfg s (.call .connect) = some s') (hrun : (system cfg).Reaches ok s' s'') :
    .connectReturned s.threads.length ∉ s''.shared.log := by
  cases hcall
  -- the call never passes its compare-and-exchange
  have key : 1 ≤ s''.shared.state.stage ∧
      (s''.threads[s.threads.length]? = some (.connect .compareExchange) ∨
        s''.threads[s.threads.length]? = some .done) ∧
      .connectReturned s.threads.length ∉ s''.shared.log := by
    refine hrun.invariant (I := fun t => 1 ≤ t.shared.state.stage ∧
      (t.threads[s.threads.length]? = some (.connect .compareExchange) ∨
        t.threads[s.threads.length]? = some .done) ∧
      .connectReturned s.threads.length ∉ t.shared.log) ?_ ⟨?_, ?_, ?_⟩
    · rintro t l t' ⟨hstage, hthread, hlog⟩ - hstep
      refine ⟨Nat.le_trans hstage (step_progress hstep).stage, ?_⟩
      have hlt : s.threads.length < t.threads.length := by
        rcases hthread with hthread | hthread <;>
          exact (List.getElem?_eq_some_iff.mp hthread).1
      rcases step_cases hstep with ⟨c, -, rfl⟩ | ⟨e, -, -, rfl⟩ |
        ⟨i, pc, sh', pc', -, hpc, hm, rfl⟩
      · exact ⟨hthread.imp Pool.at_spawn Pool.at_spawn, hlog⟩
      · exact ⟨hthread.imp Pool.at_spawn Pool.at_spawn, hlog⟩
      · by_cases hi : i = s.threads.length
        · -- the call itself moves: it throws
          subst hi
          rw [hpc] at hthread
          simp only [List.getElem?_set_self hlt]
          rcases hthread with hthread | hthread <;> cases hthread
          · cases hm with
            | connectStarts h => rw [h] at hstage; simp [ConnectionState.stage] at hstage
            | connectThrows => simpa using hlog
          · cases hm
        · simp only [List.getElem?_set_ne hi]
          refine ⟨hthread, fun hmem => ?_⟩
          rcases hm.connectReturned_mem hmem with hold | ⟨hj, -⟩
          · exact hlog hold
          · exact hi hj.symm
    · have hne : s.shared.state.stage ≠ 0 := fun h0 =>
        hs (ConnectionState.eq_of_stage_eq (t := .notConnected) h0 (by decide))
      exact Nat.pos_of_ne_zero hne
    · simp [Pool.spawn, Call.start]
    · intro hmem
      exact absurd (connectReturned_lt h _ hmem) (Nat.lt_irrefl _)
  exact key.2.2

/-! ## Logging in at most once -/

/-- A client is logged in at most once. -/
theorem loggedIn_le_one (h : (system cfg).Reachable ok s) :
    s.shared.log.countP (Event.isState .loggedIn) ≤ 1 := by
  refine h.invariant_of (J := fun s => s.Annotated Lifecycle (Knows cfg))
    (I := fun s => s.shared.log.countP (Event.isState .loggedIn) ≤ 1)
    (fun s hs => lifecycle hs) (by simp [system, Shared.init]) ?_
  intro s l s' hlife hs _ hstep
  rcases step_cases hstep with ⟨c, -, rfl⟩ | ⟨e, -, -, rfl⟩ | ⟨i, pc, sh', pc', -, -, hm, rfl⟩
  · exact hs
  · exact hs
  · exact hm.loggedIn_le_one hlife.shared hs

/-- The listener is told of a success at most as often as the client was logged in. -/
theorem success_le_loggedIn (h : (system cfg).Reachable ok s) :
    s.shared.log.countP Event.isSuccess ≤ s.shared.log.countP (Event.isState .loggedIn) := by
  have key : s.shared.log.countP Event.isSuccess + s.threads.countP Pc.isSuccess ≤
      s.shared.log.countP (Event.isState .loggedIn) := by
    refine h.invariant (I := fun s => s.shared.log.countP Event.isSuccess +
      s.threads.countP Pc.isSuccess ≤ s.shared.log.countP (Event.isState .loggedIn))
      (by simp [system, Shared.init]) fun s l s' hs _ hstep => ?_
    refine bound_step (n := fun sh => sh.log.countP Event.isSuccess)
      (m := fun sh => sh.log.countP (Event.isState .loggedIn)) hs hstep ?_ ?_ ?_
    · intro c
      cases c <;> rfl
    · intro e _
      cases e <;> simp [SocketEvent.start, Pc.isSuccess]
    · exact fun i pc sh' pc' _ _ hm => hm.success_le
  omega

/-- The step in which a client is logged in handles a received acknowledgement with status OK,
after the login message was handed to the socket. -/
theorem step_to_loggedIn (h : (system cfg).Reachable ok s) (hstep : step cfg s l = some s')
    (hs : s.shared.state ≠ .loggedIn) (hs' : s'.shared.state = .loggedIn) :
    ∃ i header ackData, l.thread = some i ∧
      s.threads[i]? = some (.received (.compareExchange header ackData)) ∧
      Decoded cfg header ackData ∧ ackData.status = .ok ∧
      s.shared.log.any Event.isLoginMessage = true := by
  have hlife := lifecycle h
  rcases step_cases hstep with ⟨c, -, rfl⟩ | ⟨e, -, -, rfl⟩ | ⟨i, pc, sh', pc', hi, hpc, hm, rfl⟩
  · exact absurd hs' hs
  · exact absurd hs' hs
  · rcases hm.state_eq_loggedIn hs' with hold | ⟨header, ackData, rfl, hstatus, hlogging⟩
    · exact absurd hold hs
    · exact ⟨i, header, ackData, hi, hpc, (hlife.at hpc).decoded header ackData (.inr rfl),
        hstatus, hlife.shared.loggingIn hlogging⟩

/-! ## The guarantees together -/

/-- A client is used once. -/
structure SingleUse (cfg : Config) : Prop where
  /-- A client that has come to its end stays there. -/
  terminal : ∀ s s', (system cfg).Reachable Unrestricted s → s.shared.state.Terminal →
    (system cfg).Reaches Unrestricted s s' → s'.shared.state.Terminal
  /-- At most one call of `Connect()` returns. -/
  connect_once : ∀ s, (system cfg).Reachable Unrestricted s →
    s.shared.log.countP Event.isConnectReturned ≤ 1
  /-- A call that starts after the client has left its first state never returns. -/
  connect_late : ∀ s s' s'', (system cfg).Reachable Unrestricted s →
    s.shared.state ≠ .notConnected → step cfg s (.call .connect) = some s' →
    (system cfg).Reaches Unrestricted s' s'' →
    .connectReturned s.threads.length ∉ s''.shared.log
  /-- The client is logged in at most once. -/
  loggedIn_once : ∀ s, (system cfg).Reachable Unrestricted s →
    s.shared.log.countP (Event.isState .loggedIn) ≤ 1
  /-- The step in which it is logged in handles a received acknowledgement with status OK, and
  the login message was handed to the socket before. -/
  loggedIn_by_ack : ∀ s l s', (system cfg).Reachable Unrestricted s → step cfg s l = some s' →
    s.shared.state ≠ .loggedIn → s'.shared.state = .loggedIn →
    ∃ i header ackData, l.thread = some i ∧
      s.threads[i]? = some (.received (.compareExchange header ackData)) ∧
      Decoded cfg header ackData ∧ ackData.status = .ok ∧
      s.shared.log.any Event.isLoginMessage = true
  /-- The listener is told of a success at most once. -/
  success_once : ∀ s, (system cfg).Reachable Unrestricted s →
    s.shared.log.countP Event.isSuccess ≤ 1

/-- A client is used once, in whatever order its calls, its callbacks and the timeout of its wait
take their steps. -/
theorem singleUse (cfg : Config) : SingleUse cfg where
  terminal _ _ _ ht hrun := (progress hrun).terminal ht
  connect_once _ h := connectReturned_le_one h
  connect_late _ _ _ h hs hcall hrun := connect_throws h hs hcall hrun
  loggedIn_once _ h := loggedIn_le_one h
  loggedIn_by_ack _ _ _ h hstep hs hs' := step_to_loggedIn h hstep hs hs'
  success_once _ h := Nat.le_trans (success_le_loggedIn h) (loggedIn_le_one h)

end AsyncGDSClient

/-! ## Runs of a concrete client -/

namespace Scenario

/-- A client of the concrete byte format. -/
def cfg : Config where
  wire := MsgPack.standard
  userName := "user"
  userPassword := none
  timeout := 3000
  serveOnTheSameConnection := true
  userName_not_blank := by decide
  timeout_pos := by decide

def stamp : Stamp := ⟨"id", 0, 0⟩

/-- The binary of an acknowledgement with the status 200 and without payload. -/
def positiveAck : List UInt8 :=
  [0x9b, 0xc0, 0xc0, 0, 0, 0xc2, 0xc0, 0xc0, 0xc0, 0xc0, 1, 0x93, 0xcc, 0xc8, 0xc0, 0xc0]

/-- `n` steps of thread `i`. -/
def steps (n i : ℕ) : List Label := List.replicate n (.step i)

/-- `Connect()` and its thread, up to the wait. -/
def connecting : List Label := .call .connect :: steps 5 0

/-- The socket is opened, and the callback runs to its end. -/
def opening (i : ℕ) : List Label := .raise (.opened stamp) :: steps 4 i

/-- A positive acknowledgement is received, and the callback runs to its end. -/
def acknowledging (i : ℕ) : List Label := .raise (.dataReceived positiveAck) :: steps 4 i

/-- A login without disturbance. -/
def login : List Label := connecting ++ opening 1 ++ acknowledging 2 ++ steps 1 0

end Scenario

open Scenario in
/-- The undisturbed login of a client: the listener is told once, and another `Connect()` will
not return. -/
theorem AsyncGDSClient.singleUse_login : ∃ s, (system cfg).Reachable Unrestricted s ∧
    s.shared.state = .loggedIn ∧ s.shared.log.countP Event.isSuccess = 1 ∧
    ∀ s' s'', step cfg s (.call .connect) = some s' → (system cfg).Reaches Unrestricted s' s'' →
      .connectReturned s.threads.length ∉ s''.shared.log := by
  have hlogin : ∃ s, (system cfg).Reachable Unrestricted s ∧ s.shared.state = .loggedIn ∧
      s.shared.log.countP Event.isSuccess = 1 :=
    System.exists_reachable login (by decide +kernel)
  obtain ⟨s, hreach, hs, hsuccess⟩ := hlogin
  exact ⟨s, hreach, hs, hsuccess, fun s' s'' hcall hrun' =>
    (singleUse cfg).connect_late s s' s'' hreach (by rw [hs]; decide) hcall hrun'⟩

end Gds
