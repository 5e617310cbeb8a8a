import GdsSdk.Transition.History
import GdsSdk.Websocket.SingleUse

/-!
# Disconnecting after a login

`OnSocketClosed` runs at most once, so it reports at most once.  It tells the listener of a
disconnect either if its own compare-and-exchange ends a login, or if it finds `DISCONNECTED`,
which `Close()` writes whether or not the client was ever logged in.  A client that is closed
before its login is told of a disconnect all the same; apart from that, `OnDisconnect` comes only
after a login.
-/

namespace Gds

open Transition AsyncGDSClient

/-- The reports of `OnSocketClosed`. -/
def Event.isClosedReport : Event → Bool
  | onDisconnect | onConnectionFailure (.socketClosed _) => true
  | _ => false

/-- The program points of `OnSocketClosed`. -/
def Pc.inClosed : Pc → Bool
  | .closed _ => true
  | _ => false

/-- `OnDisconnect` is invoked at most once, and only after the client was logged in. -/
def DisconnectsAfterLogin (cfg : Config) (ok : Guard Client Label) : Prop :=
  ∀ s, (system cfg).Reachable ok s → s.shared.log.countP Event.isDisconnect ≤ 1 ∧
    ∀ newer older, s.shared.log = newer ++ .onDisconnect :: older →
      older.any (Event.isState .loggedIn) = true

/-- `OnSocketClosed` does not find a client disconnected that was never logged in. -/
def NotClosedBeforeLogin (s : Client) (_ : ℕ) : Pc → Prop
  | .closed .testDisconnected => s.shared.state = .disconnected → s.shared.Entered .loggedIn
  | _ => True

instance (s : Client) (i : ℕ) : (pc : Pc) → Decidable (NotClosedBeforeLogin s i pc)
  | .closed .testDisconnected => inferInstanceAs (Decidable (_ → _))
  | .closed .exchange | .closed .compareExchange | .closed .testFailed
  | .closed .onConnectionFailure | .closed .onDisconnect | .connect _ | .opened _ | .error _
  | .received _ | .close _ _ | .dispose _ | .sendMessage _ | .done =>
    inferInstanceAs (Decidable True)

/-- A disconnect is told after a login. -/
def AfterLogin (e : Event) (older : List Event) : Prop :=
  e = .onDisconnect → older.any (Event.isState .loggedIn) = true

/-- A thread that is about to tell of a disconnect knows of the login. -/
def KnowsLogin (sh : Shared) (pc : Pc) : Prop :=
  pc = .closed .onDisconnect → sh.Entered .loggedIn

namespace Move

variable {cfg : Config} {i : ℕ} {sh sh' : Shared} {pc pc' : Pc}

/-- A report of `OnSocketClosed` is its last step. -/
lemma closedReport_le (h : Move cfg i sh pc sh' pc') :
    sh'.log.countP Event.isClosedReport + pc'.inClosed.toNat ≤
      sh.log.countP Event.isClosedReport + pc.inClosed.toNat := by
  cases h with
  | closeReturns caller =>
    cases caller <;> simp [Event.isClosedReport, Pc.inClosed, CloseCaller.next]
  | _ => simp [List.countP_cons, Event.isClosedReport, Pc.inClosed]

/-- No move raises an event. -/
lemma socket_raised (h : Move cfg i sh pc sh' pc') :
    sh'.socket.openedRaised = sh.socket.openedRaised ∧
      sh'.socket.closedRaised = sh.socket.closedRaised := by
  cases h <;> exact ⟨rfl, rfl⟩

/-- `OnDisconnect` is the report of a thread that has decided on it. -/
lemma onDisconnect_lawful (h : Move cfg i sh pc sh' pc')
    (hpc : KnowsLogin sh pc) (hlog : Lawful AfterLogin sh.log) : Lawful AfterLogin sh'.log := by
  cases h with
  | disconnectReported => exact ⟨fun _ => hpc rfl, hlog⟩
  | _ => simpa [AfterLogin] using hlog

/-- A thread decides to tell of a disconnect when it finds one, or when it ends a login. -/
lemma knowsLogin (h : Move cfg i sh pc sh' pc') (hI : Lifecycle sh)
    (hclosed : pc = .closed .testDisconnected → sh.state = .disconnected → sh.Entered .loggedIn) :
    KnowsLogin sh' pc' := by
  intro hpc'
  have hp := h.progress
  cases h with
  | closedFindsDisconnected hstate => exact hclosed rfl hstate
  | closedDisconnects hstate => exact hp.entered (hI.loggedIn hstate)
  | closeReturns caller => cases caller <;> cases hpc'
  | _ => cases hpc'

end Move

namespace AsyncGDSClient

variable {cfg : Config} {ok : Guard Client Label} {s : Client}

/-- `OnSocketClosed` is started at most once, and reports at most once. -/
theorem closedReports_le (hok : ∀ s l, ok s l → RaisedOnce s l)
    (h : (system cfg).Reachable ok s) :
    s.shared.log.countP Event.isClosedReport + s.threads.countP Pc.inClosed ≤
      s.shared.socket.closedRaised.toNat := by
  refine h.invariant (I := fun s => s.shared.log.countP Event.isClosedReport +
    s.threads.countP Pc.inClosed ≤ s.shared.socket.closedRaised.toNat)
    (by simp [system, Shared.init]) fun s l s' hs hl hstep => ?_
  refine bound_step (n := fun sh => sh.log.countP Event.isClosedReport)
    (m := fun sh => sh.socket.closedRaised.toNat) hs hstep ?_ ?_ ?_
  · intro c
    cases c <;> rfl
  · rintro e rfl
    cases e with
    | closed =>
      have hrule : s.shared.socket.closedRaised = false := hok _ _ hl
      simp [SocketEvent.start, SocketEvent.raised, Pc.inClosed, hrule]
    | _ => simp [SocketEvent.start, SocketEvent.raised, Pc.inClosed]
  · intro i pc sh' pc' _ _ hm
    have hle := hm.closedReport_le
    rw [hm.socket_raised.2]
    omega

/-- If `OnSocketClosed` never finds a client disconnected that was not logged in, the listener
is told of a disconnect at most once and only after a login. -/
theorem disconnectsAfterLogin (cfg : Config) :
    DisconnectsAfterLogin cfg fun s l =>
      RaisedOnce s l ∧ WhenMoving NotClosedBeforeLogin s l := by
  intro s h
  refine ⟨?_, ?_⟩
  · have hle := closedReports_le (fun _ _ hl => hl.1) h
    have hmono : s.shared.log.countP Event.isDisconnect ≤
        s.shared.log.countP Event.isClosedReport :=
      List.countP_mono_left fun e _ he => by cases e <;> simp_all [Event.isDisconnect,
        Event.isClosedReport]
    have := Bool.toNat_le s.shared.socket.closedRaised
    omega
  · have hann : s.Annotated (fun sh => Lawful AfterLogin sh.log) KnowsLogin := by
      refine h.invariant_of (J := fun s => s.Annotated Lifecycle (Knows cfg))
        (I := Pool.Annotated (fun sh => Lawful AfterLogin sh.log) KnowsLogin)
        (fun s hs => lifecycle hs) ?_ ?_
      · exact ⟨trivial, fun pc hpc => by cases hpc⟩
      intro s l s' hlife hs hl hstep
      refine annotated_step hs hstep (fun c hc => by cases c <;> cases hc) ?_ ?_
      · intro e _ _
        exact ⟨hs.shared, fun he => (by cases e <;> cases he), fun q _ hq => hq⟩
      · intro i pc sh' pc' hi hpc hm
        refine ⟨hm.onDisconnect_lawful (hs.at hpc) hs.shared, hm.knowsLogin hlife.shared ?_,
          fun q _ hq hq' => hm.progress.entered (hq hq')⟩
        rintro rfl
        exact hl.2 i hi _ hpc
    exact fun newer older heq => lawful_iff.mp hann.shared newer _ older heq rfl

end AsyncGDSClient

open Scenario in
/-- A client that is closed while it connects is told of a disconnect. -/
theorem AsyncGDSClient.not_disconnectsAfterLogin : ¬ DisconnectsAfterLogin cfg SocketRule := by
  intro hclaim
  have hrun : ∃ s, (system cfg).Reachable SocketRule s ∧
      s.shared.log.head?.any Event.isDisconnect = true ∧ ¬ s.shared.Entered .loggedIn :=
    System.exists_reachable (connecting ++ [.call .close] ++ steps 4 1 ++
      [.raise .closed] ++ steps 3 2) (by decide +kernel)
  obtain ⟨s, hreach, hhead, hnot⟩ := hrun
  obtain ⟨e, he, hdisconnect⟩ := (Option.any_eq_true _ _).mp hhead
  obtain ⟨older, hlog⟩ := List.head?_eq_some_iff.mp he
  cases e with
  | onDisconnect =>
    have hlogin := (hclaim s hreach).2 [] older hlog
    refine hnot ?_
    rw [Shared.Entered, hlog, List.any_cons, hlogin, Bool.or_true]
  | _ => cases hdisconnect

open Scenario in
/-- The peer closes the connection of a client that is logged in. -/
theorem AsyncGDSClient.disconnectsAfterLogin_login : ∃ s, (system cfg).Reachable
    (fun s l => RaisedOnce s l ∧ WhenMoving NotClosedBeforeLogin s l) s ∧
    0 < s.shared.log.countP Event.isDisconnect ∧ s.shared.log.countP Event.isDisconnect ≤ 1 := by
  have hrun : ∃ s, (system cfg).Reachable
      (fun s l => RaisedOnce s l ∧ WhenMoving NotClosedBeforeLogin s l) s ∧
      0 < s.shared.log.countP Event.isDisconnect :=
    System.exists_reachable (login ++ [.raise .closed] ++ steps 4 3) (by decide +kernel)
  obtain ⟨s, hreach, htold⟩ := hrun
  exact ⟨s, hreach, htold, (disconnectsAfterLogin cfg s hreach).1⟩

end Gds
