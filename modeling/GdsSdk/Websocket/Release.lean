import GdsSdk.Websocket.SingleUse

/-!
# Releasing the connection of a failed client

A client that has failed should not leave its socket open.  The handler of a rejected login closes
it after it has recorded the failure, and `OnSocketError` closes it before it records one, unless
it takes the connection for closed.  The timeout of `Connect()` never closes it, and a socket that
is opened after the client has failed stays open.  Apart from these cases a failed client has
released its connection as soon as no callback is in progress.
-/

namespace Gds

open Transition AsyncGDSClient

/-- The socket is not open, or `Close()` was called on it since it was opened. -/
def Socket.Released (s : Socket) : Prop := s.isOpen = false ∨ s.closeCalled = true

instance (s : Socket) : Decidable s.Released := inferInstanceAs (Decidable (_ ∨ _))

/-- The thread of `Connect()` is in progress. -/
def Pc.isConnectThread : Pc → Bool
  | .connect .compareExchange => false
  | .connect _ => true
  | _ => false

/-- A client that has failed has released its connection, whenever no callback and no thread of
`Connect()` is in progress. -/
def ReleasesOnFailure (cfg : Config) (ok : Guard Client Label) : Prop :=
  ∀ s, (system cfg).Reachable ok s →
    (∀ q ∈ s.threads, q.isCallback = false ∧ q.isConnectThread = false) →
    s.shared.state = .failed → s.shared.socket.Released

/-- The write of the timeout, or that of an `OnSocketError` that took the connection for closed. -/
def Pc.isUncheckedWrite : Pc → Bool
  | .connect .writeFailed | .error (.writeFailed _ true) => true
  | _ => false

/-- The timeout, and an `OnSocketError` that took the connection for closed, write `FAILED` only
when the connection is released. -/
def FailsReleased (s : Client) (_ : ℕ) (pc : Pc) : Prop :=
  pc.isUncheckedWrite = true → s.shared.socket.Released

instance (s : Client) (i : ℕ) (pc : Pc) : Decidable (FailsReleased s i pc) :=
  inferInstanceAs (Decidable (_ → _))

/-- An `OnSocketError` that found the connection open, behind its close of the socket. -/
def Pc.hasClosed : Pc → Bool
  | .error (.testFailed _ false) | .error (.testLoggedIn _ false)
  | .error (.writeFailed _ false) => true
  | _ => false

/-- The socket is not opened after the client has failed, nor while an `OnSocketError` that closed
it may still record a failure. -/
def OpensBeforeFailure : Guard Client Label := fun s l =>
  match l with
  | .raise (.opened _) => s.shared.state ≠ .failed ∧ ∀ q ∈ s.threads, q.hasClosed = false
  | _ => True

instance (s : Client) (l : Label) : Decidable (OpensBeforeFailure s l) :=
  match l with
  | .raise (.opened _) => inferInstanceAs (Decidable (_ ∧ _))
  | .raise (.error _) | .raise .closed | .raise (.dataReceived _) | .call _ | .step _
  | .expire _ | .abort _ => inferInstanceAs (Decidable True)

/-- The condition of a run in which failures release the connection. -/
def FailureCloses : Guard Client Label := fun s l =>
  OpensBeforeFailure s l ∧ WhenMoving FailsReleased s l

instance (s : Client) (l : Label) : Decidable (FailureCloses s l) :=
  inferInstanceAs (Decidable (_ ∧ _))

/-- Behind the close of an `OnSocketError` the socket was closed. -/
def KnowsClosed (sh : Shared) (pc : Pc) : Prop :=
  pc.hasClosed = true → sh.socket.closeCalled = true

/-- The handler of a rejected login is on its way to close the socket. -/
def Pc.isRejecting : Pc → Bool
  | .close caller _ => caller.isRejection
  | _ => false

/-- The connection is released if the client has failed. -/
def ReleasedIfFailed (sh : Shared) : Prop := sh.state = .failed → sh.socket.Released

namespace Move

variable {cfg : Config} {i : ℕ} {sh sh' : Shared} {pc pc' : Pc}

/-- A move never reopens the socket. -/
lemma closeCalled (h : Move cfg i sh pc sh' pc') (hs : sh.socket.closeCalled = true) :
    sh'.socket.closeCalled = true := by
  cases h <;> first | rfl | exact hs

lemma released (h : Move cfg i sh pc sh' pc') (hs : sh.socket.Released) :
    sh'.socket.Released := by
  cases h <;> first | exact hs | exact .inr rfl

/-- Only the close of an `OnSocketError` leads behind it. -/
lemma knowsClosed (h : Move cfg i sh pc sh' pc') (hpc : KnowsClosed sh pc) :
    KnowsClosed sh' pc' := by
  intro hclosed
  cases h with
  | errorCloses => rfl
  | errorFindsNotFailed _ wasClosed | errorFindsNotLoggedIn _ wasClosed =>
    cases wasClosed with
    | false => exact hpc rfl
    | true => cases hclosed
  | closeReturns caller => cases caller <;> cases hclosed
  | _ => cases hclosed

/-- A client that fails has released its connection, or the handler of a rejected login goes on to
do so. -/
lemma failed_released (h : Move cfg i sh pc sh' pc') (hpc : KnowsClosed sh pc)
    (hguard : pc.isUncheckedWrite = true → sh.socket.Released) (hs : sh'.state = .failed) :
    sh.state = .failed ∨ sh'.socket.Released ∨ pc'.isRejecting = true := by
  cases h with
  | timeoutFails => exact .inr (.inl (hguard rfl))
  | errorFails _ wasClosed =>
    cases wasClosed with
    | false => exact .inr (.inl (.inr (hpc rfl)))
    | true => exact .inr (.inl (hguard rfl))
  | rejects => exact .inr (.inr rfl)
  | connectStarts | connecting | openedConnects | loggingIn | closedDisconnects | accepts
  | closeDisconnects => cases hs
  | _ => exact .inl hs

/-- The handler of a rejected login closes the socket before it leaves `Close()`. -/
lemma isRejecting (h : Move cfg i sh pc sh' pc') (hpc : pc.isRejecting = true) :
    sh'.socket.Released ∨ pc'.isRejecting = true := by
  cases h with
  | closeFindsFailed | closeFindsNotFailed | closeDisconnects | closeMarks => exact .inr hpc
  | closeReturns => exact .inl (.inr rfl)
  | _ => cases hpc

/-- A move leaves the connection of a failed client released, or a handler that releases it. -/
lemma releasedIfFailed (h : Move cfg i sh pc sh' pc') (hpc : KnowsClosed sh pc)
    (hguard : pc.isUncheckedWrite = true → sh.socket.Released)
    (hdue : ReleasedIfFailed sh ∨ pc.isRejecting = true) :
    ReleasedIfFailed sh' ∨ pc'.isRejecting = true := by
  by_cases hs : sh'.state = .failed
  · have hgoal : sh'.socket.Released ∨ pc'.isRejecting = true := by
      rcases h.failed_released hpc hguard hs with hold | hnew
      · rcases hdue with hreleased | hrejecting
        · exact .inl (h.released (hreleased hold))
        · exact h.isRejecting hrejecting
      · exact hnew
    exact hgoal.imp_left fun hreleased _ => hreleased
  · exact .inl fun hfailed => absurd hfailed hs

end Move

/-- A raised event other than `Opened` does not take back that the connection is released. -/
lemma SocketEvent.released {e : SocketEvent} {s : Socket} (he : ∀ stamp, e ≠ .opened stamp)
    (hs : s.Released) : (e.raised s).Released := by
  cases e with
  | opened stamp => exact absurd rfl (he stamp)
  | closed => exact .inl (Bool.and_false _)
  | error | dataReceived => exact hs

namespace AsyncGDSClient

variable {cfg : Config} {s s' : Client} {l : Label}

/-- In every run an `OnSocketError` behind its close has closed the socket. -/
lemma knowsClosed (h : (system cfg).Reachable FailureCloses s) :
    s.Annotated (fun _ => True) KnowsClosed := by
  refine h.invariant ⟨trivial, fun pc hpc => by cases hpc⟩ fun s l s' hs hl hstep => ?_
  refine annotated_step hs hstep ?_ ?_ ?_
  · intro c hclosed
    cases c <;> cases hclosed
  · rintro e rfl -
    refine ⟨trivial, fun hclosed => ?_, fun q hq hknows hclosed => ?_⟩
    · cases e <;> cases hclosed
    · cases e with
      | opened stamp =>
        rw [hl.1.2 q hq] at hclosed
        cases hclosed
      | error | closed | dataReceived => exact hknows hclosed
  · intro i pc sh' pc' _ hpc hm
    exact ⟨trivial, hm.knowsClosed (hs.at hpc), fun q _ hq hclosed => hm.closeCalled (hq hclosed)⟩

/-- In every run under the condition the connection of a failed client is released, or the handler
of a rejected login is about to release it. -/
lemma release_pending (h : (system cfg).Reachable FailureCloses s) :
    s.Pending ReleasedIfFailed Pc.isRejecting := by
  refine h.invariant_of (J := fun t => t.Annotated (fun _ => True) KnowsClosed)
    (I := fun t => t.Pending ReleasedIfFailed Pc.isRejecting) (fun t ht => knowsClosed ht)
    (.inl fun hinit => by cases hinit) fun t l t' hknows ht hl hstep => ?_
  refine pending_step ht hstep ?_ ?_
  · rintro e rfl hreleased
    refine .inl fun hfailed => ?_
    have hopened : ∀ stamp, e ≠ .opened stamp := by
      rintro stamp rfl
      exact hl.1.1 hfailed
    exact e.released hopened (hreleased hfailed)
  · intro i pc sh' pc' hi hpc hm hdue
    exact hm.releasedIfFailed (hknows.at hpc) (hl.2 i hi pc hpc) hdue

end AsyncGDSClient

end Gds
