import GdsSdk.Websocket.AsyncGDSClient

/-!
# What a step can do

`Move` lists the atomic steps of the client, one constructor for each way in which a program
point can be left, with the condition under which it is taken.  `Move.of_next` derives it from
the programs once, and `step_cases` says that a step of a client starts a call, raises an event
or is a move of one of its threads.  All invariants are proved by cases on `Move`.
-/

namespace Gds

open Transition

/-- Thread `i` moves from one program point to the next and changes the shared state. -/
inductive Move (cfg : Config) (i : ℕ) (sh : Shared) : Pc → Shared → Pc → Prop
  -- Connect
  | connectStarts (h : sh.state = .notConnected) :
    Move cfg i sh (.connect .compareExchange) (sh.write .initializing) (.connect .start)
  | connectThrows (h : sh.state ≠ .notConnected) (e : ClientException) :
    Move cfg i sh (.connect .compareExchange) (sh.record (.threw i e)) .done
  | connectReturns :
    Move cfg i sh (.connect .start) (sh.record (.connectReturned i)) (.connect .subscribe)
  | subscribes : Move cfg i sh (.connect .subscribe) sh.subscribe (.connect .openSocket)
  | opens :
    Move cfg i sh (.connect .openSocket) sh.openSocket (.connect .compareExchangeConnecting)
  | connecting (h : sh.state = .initializing) :
    Move cfg i sh (.connect .compareExchangeConnecting) (sh.write .connecting) (.connect .wait)
  | notConnecting (h : sh.state ≠ .initializing) :
    Move cfg i sh (.connect .compareExchangeConnecting) sh (.connect .wait)
  | waitEnds (h : sh.countdown.currentCount = 0) :
    Move cfg i sh (.connect .wait) (sh.record .connectFinished) .done
  | waitExpires (h : sh.countdown.currentCount ≠ 0) :
    Move cfg i sh (.connect .wait) sh (.connect .readState)
  | waitAborts (h : sh.countdown.disposed = true) :
    Move cfg i sh (.connect .wait) (sh.record .connectFinished) .done
  | timeoutDue (h : ¬ sh.state.Terminal) :
    Move cfg i sh (.connect .readState) sh (.connect .writeFailed)
  | timeoutVoid (h : sh.state.Terminal) :
    Move cfg i sh (.connect .readState) (sh.record .connectFinished) .done
  | timeoutFails :
    Move cfg i sh (.connect .writeFailed) (sh.write .failed) (.connect .onConnectionFailure)
  | timeoutReported (message : String) :
    Move cfg i sh (.connect .onConnectionFailure)
      ((sh.record (.onConnectionFailure (.timeout message))).record .connectFinished) .done
  -- OnSocketOpened
  | openedMarks (stamp : Stamp) :
    Move cfg i sh (.opened (.exchange stamp)) (sh.exchange false)
      (.opened (.compareExchangeConnected stamp))
  | openedConnects (stamp : Stamp) (h : sh.state = .connecting) :
    Move cfg i sh (.opened (.compareExchangeConnected stamp)) (sh.write .connected)
      (.opened (.send stamp))
  | openedTolerates (stamp : Stamp) (h : sh.state = .disconnected) :
    Move cfg i sh (.opened (.compareExchangeConnected stamp)) sh (.opened (.send stamp))
  | openedThrows (stamp : Stamp) (h : sh.state ≠ .connecting) (h' : sh.state ≠ .disconnected)
      (e : ClientException) :
    Move cfg i sh (.opened (.compareExchangeConnected stamp)) (sh.record (.threw i e)) .done
  | loginSent (stamp : Stamp) (binary : List UInt8)
      (h : MessageManager.getBinaryFromMessage cfg.wire (loginMessage cfg stamp) = .ok binary) :
    Move cfg i sh (.opened (.send stamp)) (sh.record (.login binary))
      (.opened .compareExchangeLoggingIn)
  | loginThrows (stamp : Stamp) (cause : MessagePackSerializationException)
      (h : MessageManager.getBinaryFromMessage cfg.wire (loginMessage cfg stamp) = .error cause) :
    Move cfg i sh (.opened (.send stamp)) (sh.record (.threw i (.serialization cause))) .done
  | loggingIn (h : sh.state = .connected) :
    Move cfg i sh (.opened .compareExchangeLoggingIn) (sh.write .loggingIn) .done
  | loggingInTolerates (h : sh.state = .disconnected) :
    Move cfg i sh (.opened .compareExchangeLoggingIn) sh .done
  | loggingInThrows (h : sh.state ≠ .connected) (h' : sh.state ≠ .disconnected)
      (e : ClientException) :
    Move cfg i sh (.opened .compareExchangeLoggingIn) (sh.record (.threw i e)) .done
  -- OnSocketError
  | errorFindsOpen (message : String) (h : sh.isConnectionClosed = false) :
    Move cfg i sh (.error (.isConnectionClosed message)) sh (.error (.closeSocket message))
  | errorFindsClosed (message : String) (h : sh.isConnectionClosed = true) :
    Move cfg i sh (.error (.isConnectionClosed message)) sh (.error (.testFailed message true))
  | errorCloses (message : String) :
    Move cfg i sh (.error (.closeSocket message)) sh.closeSocket
      (.error (.testFailed message false))
  | errorFindsFailed (message : String) (wasClosed : Bool) (h : sh.state = .failed) :
    Move cfg i sh (.error (.testFailed message wasClosed)) sh .done
  | errorFindsNotFailed (message : String) (wasClosed : Bool) (h : sh.state ≠ .failed) :
    Move cfg i sh (.error (.testFailed message wasClosed)) sh
      (.error (.testLoggedIn message wasClosed))
  | errorFindsLoggedIn (message : String) (wasClosed : Bool) (h : sh.state = .loggedIn) :
    Move cfg i sh (.error (.testLoggedIn message wasClosed)) sh .done
  | errorFindsNotLoggedIn (message : String) (wasClosed : Bool) (h : sh.state ≠ .loggedIn) :
    Move cfg i sh (.error (.testLoggedIn message wasClosed)) sh
      (.error (.writeFailed message wasClosed))
  | errorFails (message : String) (wasClosed : Bool) :
    Move cfg i sh (.error (.writeFailed message wasClosed)) (sh.write .failed)
      (.error (.onConnectionFailure message))
  | errorReported (message : String) :
    Move cfg i sh (.error (.onConnectionFailure message))
      (sh.record (.onConnectionFailure (.socketError message))) .done
  -- OnSocketClosed
  | closedMarks : Move cfg i sh (.closed .exchange) (sh.exchange true) (.closed .testDisconnected)
  | closedFindsDisconnected (h : sh.state = .disconnected) :
    Move cfg i sh (.closed .testDisconnected) sh (.closed .onDisconnect)
  | closedFindsNotDisconnected (h : sh.state ≠ .disconnected) :
    Move cfg i sh (.closed .testDisconnected) sh (.closed .compareExchange)
  | closedDisconnects (h : sh.state = .loggedIn) :
    Move cfg i sh (.closed .compareExchange) (sh.write .disconnected) (.closed .onDisconnect)
  | closedFindsNotLoggedIn (h : sh.state ≠ .loggedIn) :
    Move cfg i sh (.closed .compareExchange) sh (.closed .testFailed)
  | closedFindsFailed (h : sh.state = .failed) :
    Move cfg i sh (.closed .testFailed) sh .done
  | closedFindsNotFailed (h : sh.state ≠ .failed) :
    Move cfg i sh (.closed .testFailed) sh (.closed .onConnectionFailure)
  | closedReported (message : String) :
    Move cfg i sh (.closed .onConnectionFailure)
      (sh.record (.onConnectionFailure (.socketClosed message))) .done
  | disconnectReported :
    Move cfg i sh (.closed .onDisconnect) (sh.record .onDisconnect) .done
  -- OnMessageReceived
  | receivedIgnored (binary : List UInt8) : Move cfg i sh (.received (.decode binary)) sh .done
  | receivedThrows (binary : List UInt8) (e : ClientException) :
    Move cfg i sh (.received (.decode binary)) (sh.record (.threw i e)) .done
  | receivedAck (binary : List UInt8) (header : MessageHeader) (ackData : ConnectionAckData)
      (h : MessageManager.getMessageFromBinary cfg.wire binary =
        .ok ⟨header, some (.connectionAck ackData)⟩) :
    Move cfg i sh (.received (.decode binary)) (sh.record (.acknowledged header ackData))
      (.received (.signal header ackData))
  | receivedOther (binary : List UInt8) (header : MessageHeader) (data : MessageData) :
    Move cfg i sh (.received (.decode binary)) sh (.received (.deliver header data))
  | signals (header : MessageHeader) (ackData : ConnectionAckData)
      (hcount : sh.countdown.currentCount ≠ 0) (hdisposed : sh.countdown.disposed = false) :
    Move cfg i sh (.received (.signal header ackData))
      { sh with countdown := ⟨sh.countdown.currentCount - 1, sh.countdown.disposed⟩ }
      (.received (.compareExchange header ackData))
  | signalThrows (header : MessageHeader) (ackData : ConnectionAckData) (e : ClientException)
      (h : sh.countdown.currentCount = 0 ∨ sh.countdown.disposed = true) :
    Move cfg i sh (.received (.signal header ackData)) (sh.record (.threw i e)) .done
  | rejects (header : MessageHeader) (ackData : ConnectionAckData)
      (hstatus : ackData.status ≠ .ok) (h : sh.state = .loggingIn) :
    Move cfg i sh (.received (.compareExchange header ackData)) (sh.write .failed)
      (.close (.rejection header ackData) .testFailed)
  | accepts (header : MessageHeader) (ackData : ConnectionAckData)
      (hstatus : ackData.status = .ok) (h : sh.state = .loggingIn) :
    Move cfg i sh (.received (.compareExchange header ackData))
      ((sh.write .loggedIn).record (.accepted header ackData))
      (.received (.onConnectionSuccess header ackData))
  | ackOutOfTurn (header : MessageHeader) (ackData : ConnectionAckData)
      (h : sh.state ≠ .loggingIn) :
    Move cfg i sh (.received (.compareExchange header ackData)) sh (.received .readState)
  | ackReturns (h : sh.state = .disconnected) : Move cfg i sh (.received .readState) sh .done
  | ackThrows (h : sh.state ≠ .disconnected) (e : ClientException) :
    Move cfg i sh (.received .readState) (sh.record (.threw i e)) .done
  | successReported (header : MessageHeader) (ackData : ConnectionAckData) :
    Move cfg i sh (.received (.onConnectionSuccess header ackData))
      (sh.record (.onConnectionSuccess header ackData)) .done
  | rejectionReported (header : MessageHeader) (ackData : ConnectionAckData) :
    Move cfg i sh (.received (.onConnectionFailure header ackData))
      (sh.record (.onConnectionFailure (.rejected header ackData))) .done
  | delivers (header : MessageHeader) (data : MessageData) :
    Move cfg i sh (.received (.deliver header data)) (sh.record (.delivered header data)) .done
  -- Close
  | closeFindsFailed (caller : CloseCaller) (h : sh.state = .failed) :
    Move cfg i sh (.close caller .testFailed) sh (.close caller .exchange)
  | closeFindsNotFailed (caller : CloseCaller) (h : sh.state ≠ .failed) :
    Move cfg i sh (.close caller .testFailed) sh (.close caller .writeDisconnected)
  | closeDisconnects (caller : CloseCaller) :
    Move cfg i sh (.close caller .writeDisconnected) (sh.write .disconnected)
      (.close caller .exchange)
  | closeMarks (caller : CloseCaller) :
    Move cfg i sh (.close caller .exchange) (sh.exchange true) (.close caller .closeSocket)
  | closeReturns (caller : CloseCaller) :
    Move cfg i sh (.close caller .closeSocket) (sh.closeSocket.record .closeReturned) caller.next
  -- Dispose
  | disposedBefore (h : sh.disposed = true) : Move cfg i sh (.dispose .testDisposed) sh .done
  | disposeStarts (h : sh.disposed = false) :
    Move cfg i sh (.dispose .testDisposed) sh (.dispose .disposeCountdown)
  | disposesCountdown :
    Move cfg i sh (.dispose .disposeCountdown) sh.disposeCountdown (.close .dispose .testFailed)
  | disposeEnds : Move cfg i sh (.dispose .writeDisposed) { sh with disposed := true } .done
  -- SendMessage
  | sendAllowed (header : Option MessageHeader) (data : Option MessageData)
      (h : sh.state = .loggedIn) :
    Move cfg i sh (.sendMessage (.testLoggedIn header data)) sh (.sendMessage (.send header data))
  | sendForbidden (header : Option MessageHeader) (data : Option MessageData)
      (h : sh.state ≠ .loggedIn) :
    Move cfg i sh (.sendMessage (.testLoggedIn header data)) sh (.sendMessage .readState)
  | sendRejected (e : ClientException) :
    Move cfg i sh (.sendMessage .readState) (sh.record (.threw i e)) .done
  | sendThrows (header : Option MessageHeader) (data : Option MessageData)
      (e : ClientException) :
    Move cfg i sh (.sendMessage (.send header data)) (sh.record (.threw i e)) .done
  | sends (header : MessageHeader) (data : MessageData) (binary : List UInt8)
      (htype : data.getDataType = header.dataType)
      (h : MessageManager.getBinaryFromMessage cfg.wire
        (MessageManager.getMessage header (some data)) = .ok binary) :
    Move cfg i sh (.sendMessage (.send (some header) (some data))) (sh.record (.sent i binary))
      .done

namespace Move

variable {cfg : Config} {i : ℕ} {sh sh' : Shared} {pc' : Pc}

/-! ## The moves of each method -/

lemma of_connect {pc : ConnectPc} (h : connect cfg i sh pc = some (sh', pc')) :
    Move cfg i sh (.connect pc) sh' pc' := by
  cases pc with
  | compareExchange =>
    by_cases hs : sh.state = .notConnected
    · simp only [connect, Shared.compareExchange_of_eq hs, if_true] at h
      cases h
      exact .connectStarts hs
    · simp only [connect, Shared.compareExchange_of_ne hs, if_neg hs] at h
      cases h
      exact .connectThrows hs _
  | start => cases h; exact .connectReturns
  | subscribe => cases h; exact .subscribes
  | openSocket => cases h; exact .opens
  | compareExchangeConnecting =>
    by_cases hs : sh.state = .initializing
    · simp only [connect, Shared.compareExchange_of_eq hs] at h
      cases h
      exact .connecting hs
    · simp only [connect, Shared.compareExchange_of_ne hs] at h
      cases h
      exact .notConnecting hs
  | wait =>
    simp only [connect] at h
    split_ifs at h with hc
    cases h
    exact .waitEnds hc
  | readState =>
    simp only [connect] at h
    split_ifs at h with hs
    · cases h
      exact .timeoutDue fun ht => ht.elim hs.2 hs.1
    · cases h
      exact .timeoutVoid (by unfold ConnectionState.Terminal; tauto)
  | writeFailed => cases h; exact .timeoutFails
  | onConnectionFailure => cases h; exact .timeoutReported _

lemma of_onSocketOpened {pc : OnSocketOpenedPc}
    (h : onSocketOpened cfg i sh pc = some (sh', pc')) : Move cfg i sh (.opened pc) sh' pc' := by
  cases pc with
  | exchange stamp => cases h; exact .openedMarks stamp
  | compareExchangeConnected stamp =>
    by_cases hs : sh.state = .connecting
    · simp only [onSocketOpened, Shared.compareExchange_of_eq hs] at h
      cases h
      exact .openedConnects stamp hs
    · simp only [onSocketOpened, Shared.compareExchange_of_ne hs] at h
      split_ifs at h with hthrow
      · cases h
        exact .openedThrows stamp hs hthrow.2 _
      · cases h
        exact .openedTolerates stamp (by tauto)
  | send stamp =>
    simp only [onSocketOpened] at h
    split at h
    · rename_i cause hcause
      cases h
      exact .loginThrows stamp cause hcause
    · rename_i binary hbinary
      cases h
      exact .loginSent stamp binary hbinary
  | compareExchangeLoggingIn =>
    by_cases hs : sh.state = .connected
    · simp only [onSocketOpened, Shared.compareExchange_of_eq hs] at h
      cases h
      exact .loggingIn hs
    · simp only [onSocketOpened, Shared.compareExchange_of_ne hs] at h
      split_ifs at h with hthrow
      · cases h
        exact .loggingInThrows hs hthrow.2 _
      · cases h
        exact .loggingInTolerates (by tauto)

lemma of_onSocketError {pc : OnSocketErrorPc} (h : onSocketError sh pc = some (sh', pc')) :
    Move cfg i sh (.error pc) sh' pc' := by
  cases pc with
  | isConnectionClosed message =>
    simp only [onSocketError] at h
    split_ifs at h with hclosed
    · cases h
      exact .errorFindsOpen message (by simpa using hclosed)
    · cases h
      exact .errorFindsClosed message (by simpa using hclosed)
  | closeSocket message => cases h; exact .errorCloses message
  | testFailed message wasClosed =>
    simp only [onSocketError] at h
    split_ifs at h with hs
    · cases h
      exact .errorFindsNotFailed message wasClosed hs
    · cases h
      exact .errorFindsFailed message wasClosed (not_not.mp hs)
  | testLoggedIn message wasClosed =>
    simp only [onSocketError] at h
    split_ifs at h with hs
    · cases h
      exact .errorFindsNotLoggedIn message wasClosed hs
    · cases h
      exact .errorFindsLoggedIn message wasClosed (not_not.mp hs)
  | writeFailed message wasClosed => cases h; exact .errorFails message wasClosed
  | onConnectionFailure message => cases h; exact .errorReported message

lemma of_onSocketClosed {pc : OnSocketClosedPc} (h : onSocketClosed sh pc = some (sh', pc')) :
    Move cfg i sh (.closed pc) sh' pc' := by
  cases pc with
  | exchange => cases h; exact .closedMarks
  | testDisconnected =>
    simp only [onSocketClosed] at h
    split_ifs at h with hs
    · cases h
      exact .closedFindsDisconnected hs
    · cases h
      exact .closedFindsNotDisconnected hs
  | compareExchange =>
    by_cases hs : sh.state = .loggedIn
    · simp only [onSocketClosed, Shared.compareExchange_of_eq hs, if_true] at h
      cases h
      exact .closedDisconnects hs
    · simp only [onSocketClosed, Shared.compareExchange_of_ne hs, if_neg hs] at h
      cases h
      exact .closedFindsNotLoggedIn hs
  | testFailed =>
    simp only [onSocketClosed] at h
    split_ifs at h with hs
    · cases h
      exact .closedFindsNotFailed hs
    · cases h
      exact .closedFindsFailed (not_not.mp hs)
  | onConnectionFailure => cases h; exact .closedReported _
  | onDisconnect => cases h; exact .disconnectReported

lemma of_onMessageReceived {pc : OnMessageReceivedPc}
    (h : onMessageReceived cfg i sh pc = some (sh', pc')) :
    Move cfg i sh (.received pc) sh' pc' := by
  cases pc with
  | decode binary =>
    simp only [onMessageReceived] at h
    split at h
    · cases h
      exact .receivedIgnored binary
    · cases h
      exact .receivedThrows binary _
    · rename_i header ackData hdecode
      cases h
      exact .receivedAck binary header ackData hdecode
    · split_ifs at h
      · cases h
        exact .receivedOther binary _ _
      · cases h
        exact .receivedIgnored binary
  | signal header ackData =>
    simp only [onMessageReceived, Countdown.signal] at h
    split_ifs at h with hdisposed hcount
    · cases h
      exact .signalThrows header ackData _ (.inr hdisposed)
    · cases h
      exact .signalThrows header ackData _ (.inl hcount)
    · cases h
      exact .signals header ackData hcount (by simpa using hdisposed)
  | compareExchange header ackData =>
    simp only [onMessageReceived] at h
    by_cases hs : sh.state = .loggingIn <;> by_cases hstatus : ackData.status = .ok
    · rw [if_neg (not_not.mpr hstatus), Shared.compareExchange_of_eq hs] at h
      cases h
      exact .accepts header ackData hstatus hs
    · rw [if_pos hstatus, Shared.compareExchange_of_eq hs] at h
      cases h
      exact .rejects header ackData hstatus hs
    · rw [if_neg (not_not.mpr hstatus)] at h
      simp only [Shared.compareExchange_of_ne hs, if_pos hs] at h
      cases h
      exact .ackOutOfTurn header ackData hs
    · rw [if_pos hstatus] at h
      simp only [Shared.compareExchange_of_ne hs, if_pos hs] at h
      cases h
      exact .ackOutOfTurn header ackData hs
  | readState =>
    simp only [onMessageReceived] at h
    split_ifs at h with hs
    · cases h
      exact .ackThrows hs _
    · cases h
      exact .ackReturns (not_not.mp hs)
  | onConnectionSuccess header ackData => cases h; exact .successReported header ackData
  | onConnectionFailure header ackData => cases h; exact .rejectionReported header ackData
  | deliver header data => cases h; exact .delivers header data

lemma of_close {caller : CloseCaller} {pc : ClosePc} (h : close sh caller pc = some (sh', pc')) :
    Move cfg i sh (.close caller pc) sh' pc' := by
  cases pc with
  | testFailed =>
    simp only [close] at h
    split_ifs at h with hs
    · cases h
      exact .closeFindsNotFailed caller hs
    · cases h
      exact .closeFindsFailed caller (not_not.mp hs)
  | writeDisconnected => cases h; exact .closeDisconnects caller
  | exchange => cases h; exact .closeMarks caller
  | closeSocket => cases h; exact .closeReturns caller

lemma of_dispose {pc : DisposePc} (h : dispose sh pc = some (sh', pc')) :
    Move cfg i sh (.dispose pc) sh' pc' := by
  cases pc with
  | testDisposed =>
    simp only [dispose] at h
    split_ifs at h with hs
    · cases h
      exact .disposeStarts (by simpa using hs)
    · cases h
      exact .disposedBefore (by simpa using hs)
  | disposeCountdown => cases h; exact .disposesCountdown
  | writeDisposed => cases h; exact .disposeEnds

lemma of_sendMessage {pc : SendMessagePc} (h : sendMessage cfg i sh pc = some (sh', pc')) :
    Move cfg i sh (.sendMessage pc) sh' pc' := by
  cases pc with
  | testLoggedIn header data =>
    simp only [sendMessage] at h
    split_ifs at h with hs
    · cases h
      exact .sendForbidden header data hs
    · cases h
      exact .sendAllowed header data (not_not.mp hs)
  | readState => cases h; exact .sendRejected _
  | send header data =>
    rcases header with _ | header <;> rcases data with _ | data
    · cases h; exact .sendThrows _ _ _
    · cases h; exact .sendThrows _ _ _
    · cases h; exact .sendThrows _ _ _
    · simp only [sendMessage] at h
      split_ifs at h with htype
      · cases h
        exact .sendThrows _ _ _
      · split at h
        · cases h
          exact .sendThrows _ _ _
        · rename_i binary hbinary
          cases h
          exact .sends header data binary (not_not.mp htype).symm hbinary

/-- Every step of a program is a move. -/
theorem of_next {pc : Pc} (h : next cfg i sh pc = some (sh', pc')) : Move cfg i sh pc sh' pc' :=
  match pc, h with
  | .connect _, h => of_connect h
  | .opened _, h => of_onSocketOpened h
  | .error _, h => of_onSocketError h
  | .closed _, h => of_onSocketClosed h
  | .received _, h => of_onMessageReceived h
  | .close _ _, h => of_close h
  | .dispose _, h => of_dispose h
  | .sendMessage _, h => of_sendMessage h

/-- A wait that times out is a move. -/
lemma of_expire {pc : Pc} (h : expire sh pc = some (sh', pc')) : Move cfg i sh pc sh' pc' := by
  unfold expire at h
  split at h
  · split_ifs at h with hcount
    cases h
    exact .waitExpires hcount
  · cases h

/-- A wait that ends with an exception is a move. -/
lemma of_abort {pc : Pc} (h : abort sh pc = some (sh', pc')) : Move cfg i sh pc sh' pc' := by
  unfold abort at h
  split at h
  · split_ifs at h with hdisposed
    cases h
    exact .waitAborts hdisposed
  · cases h

end Move

namespace AsyncGDSClient

variable {cfg : Config} {s s' : Client} {l : Label}

/-- A step starts a call, raises an event, or is a move of a thread. -/
theorem step_cases (h : step cfg s l = some s') :
    (∃ c, l = .call c ∧ s' = s.spawn s.shared (c.start cfg)) ∨
    (∃ e, l = .raise e ∧ s.shared.socket.subscribed = true ∧
      s' = s.spawn (s.shared.raise e) e.start) ∨
    ∃ i pc sh' pc', l.thread = some i ∧ s.threads[i]? = some pc ∧
      Move cfg i s.shared pc sh' pc' ∧ s' = ⟨sh', s.threads.set i pc'⟩ := by
  cases l with
  | call c =>
    cases h
    exact .inl ⟨c, rfl, rfl⟩
  | raise e =>
    simp only [step] at h
    split_ifs at h with hsubscribed
    cases h
    exact .inr (.inl ⟨e, rfl, hsubscribed, rfl⟩)
  | step i =>
    obtain ⟨pc, sh', pc', hpc, hnext, rfl⟩ := Pool.move_eq_some.mp h
    exact .inr (.inr ⟨i, pc, sh', pc', rfl, hpc, .of_next hnext, rfl⟩)
  | expire i =>
    obtain ⟨pc, sh', pc', hpc, hnext, rfl⟩ := Pool.move_eq_some.mp h
    exact .inr (.inr ⟨i, pc, sh', pc', rfl, hpc, .of_expire hnext, rfl⟩)
  | abort i =>
    obtain ⟨pc, sh', pc', hpc, hnext, rfl⟩ := Pool.move_eq_some.mp h
    exact .inr (.inr ⟨i, pc, sh', pc', rfl, hpc, .of_abort hnext, rfl⟩)

/-- A step keeps an annotation if the start of a call, the raising of an event and every move
do. -/
theorem annotated_step {I : Shared → Prop} {K : Shared → Pc → Prop} (h : s.Annotated I K)
    (hstep : step cfg s l = some s') (hcall : ∀ c : Call, K s.shared (c.start cfg))
    (hraise : ∀ e, l = .raise e → s.shared.socket.subscribed = true →
      I (s.shared.raise e) ∧
      K (s.shared.raise e) e.start ∧
      ∀ q ∈ s.threads, K s.shared q → K (s.shared.raise e) q)
    (hmove : ∀ i pc sh' pc', l.thread = some i → s.threads[i]? = some pc →
      Move cfg i s.shared pc sh' pc' →
      I sh' ∧ K sh' pc' ∧ ∀ q ∈ s.threads, K s.shared q → K sh' q) :
    s'.Annotated I K := by
  rcases step_cases hstep with ⟨c, -, rfl⟩ | ⟨e, rfl, hsub, rfl⟩ |
    ⟨i, pc, sh', pc', hi, hpc, hm, rfl⟩
  · exact h.spawn h.shared (hcall c) fun _ _ hq => hq
  · obtain ⟨hI, hK, hstable⟩ := hraise e rfl hsub
    exact h.spawn hI hK hstable
  · obtain ⟨hI, hK, hstable⟩ := hmove i pc sh' pc' hi hpc hm
    exact h.set hI hK hstable

/-- A bound on what has happened and on the threads that are about to make it happen is kept if
calls do not start at such a program point, and if neither events nor moves exceed it. -/
theorem bound_step {f : Pc → Bool} {n m : Shared → ℕ}
    (h : n s.shared + s.threads.countP f ≤ m s.shared) (hstep : step cfg s l = some s')
    (hcall : ∀ c : Call, f (c.start cfg) = false)
    (hraise : ∀ e, l = .raise e →
      n (s.shared.raise e) + (f e.start).toNat + m s.shared ≤
        n s.shared + m (s.shared.raise e))
    (hmove : ∀ i pc sh' pc', l.thread = some i → s.threads[i]? = some pc →
      Move cfg i s.shared pc sh' pc' →
      n sh' + (f pc').toNat + m s.shared ≤ n s.shared + (f pc).toNat + m sh') :
    n s'.shared + s'.threads.countP f ≤ m s'.shared := by
  rcases step_cases hstep with ⟨c, -, rfl⟩ | ⟨e, rfl, -, rfl⟩ |
    ⟨i, pc, sh', pc', hi, hpc, hm, rfl⟩
  · simp only [Pool.spawn, Pool.countP_append_singleton, hcall c, Bool.toNat_false]
    exact h
  · have hle := hraise e rfl
    simp only [Pool.spawn, Pool.countP_append_singleton]
    omega
  · exact Pool.bound_set hpc h (hmove i pc sh' pc' hi hpc hm)

/-- A step keeps what is pending if the raising of an event and every move do. -/
theorem pending_step {D : Shared → Prop} {f : Pc → Bool} (h : s.Pending D f)
    (hstep : step cfg s l = some s')
    (hraise : ∀ e, l = .raise e → D s.shared → D (s.shared.raise e) ∨ f e.start = true)
    (hmove : ∀ i pc sh' pc', l.thread = some i → s.threads[i]? = some pc →
      Move cfg i s.shared pc sh' pc' → D s.shared ∨ f pc = true → D sh' ∨ f pc' = true) :
    s'.Pending D f := by
  rcases step_cases hstep with ⟨c, -, rfl⟩ | ⟨e, rfl, -, rfl⟩ |
    ⟨i, pc, sh', pc', hi, hpc, hm, rfl⟩
  · exact h.spawn .inl
  · exact h.spawn (hraise e rfl)
  · exact h.set hpc (hmove i pc sh' pc' hi hpc hm)

end AsyncGDSClient

end Gds
