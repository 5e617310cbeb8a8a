import GdsSdk.Demo.Session
import GdsSdk.Websocket.Sends

/-!
# What a step of a session can do

`Effect` lists the steps of a session, and `Linked` says how its two halves stand to each other: a
thread of the client that sends for a request has come to its end, and the request has gone on; or
the thread is in `SendMessage` with the arguments of the request, and the request waits for it.
-/

namespace Gds

open Transition

/-- The thread is in `SendMessage`. -/
def Pc.isSendMessage : Pc → Bool
  | .sendMessage _ => true
  | _ => false

/-- The event is a message that was handed to the socket. -/
def Event.isSent : Event → Bool
  | sent _ _ => true
  | _ => false

namespace Move

variable {cfg : Config} {i : ℕ} {sh sh' : Shared} {pc pc' : Pc}

/-- `SendMessage` is entered by a call only. -/
lemma isSendMessage (h : Move cfg i sh pc sh' pc') (hpc : pc.isSendMessage = false) :
    pc'.isSendMessage = false := by
  cases h with
  | closeReturns caller => cases caller <;> rfl
  | sendAllowed | sendForbidden => cases hpc
  | _ => rfl

/-- A move outside `SendMessage` has at most two events, sends nothing, and throws at most from its
own thread. -/
lemma events_eq (h : Move cfg i sh pc sh' pc') (hpc : pc.isSendMessage = false) :
    ∃ new, sh'.log = new ++ sh.log ∧ new.length ≤ 2 ∧
      ∀ e ∈ new, e.isSent = false ∧ ∀ k, e.ended = some k → k = i := by
  cases h with
  | sends | sendThrows | sendRejected => cases hpc
  | timeoutReported => exact ⟨[_, _], rfl, by simp [Event.isSent, Event.ended]⟩
  | accepts => exact ⟨[_, _], rfl, by simp [Event.isSent, Event.ended]⟩
  | _ => first
    | exact ⟨[], rfl, by simp⟩
    | exact ⟨[_], rfl, by simp [Event.isSent, Event.ended]⟩

end Move

namespace AsyncGDSClient

variable {cfg : Config} {s s' : Client} {l : Label} {i : ℕ}

/-- A thread in `SendMessage` moves as the call as a whole says. -/
lemma sendMessage_move {q : SendMessagePc} (hl : l.thread = some i)
    (hpc : s.threads[i]? = some (.sendMessage q)) (hstep : step cfg s l = some s') :
    ∃ sh' pc', sendMessage cfg i s.shared q = some (sh', pc') ∧
      s' = ⟨sh', s.threads.set i pc'⟩ := by
  -- only `Connect()` waits
  have hmove : ∀ f : Shared → Pc → Option (Shared × Pc), s.move i f = some s' →
      ∃ sh' pc', f s.shared (.sendMessage q) = some (sh', pc') ∧
        s' = ⟨sh', s.threads.set i pc'⟩ := by
    intro f h
    obtain ⟨pc, sh', pc', hpc', hnext, rfl⟩ := Pool.move_eq_some.mp h
    cases hpc.symm.trans hpc'
    exact ⟨sh', pc', hnext, rfl⟩
  cases l with
  | call | raise => cases hl
  | step =>
    cases hl
    exact hmove _ hstep
  | expire =>
    cases hl
    obtain ⟨sh', pc', hnext, -⟩ := hmove _ hstep
    cases hnext
  | abort =>
    cases hl
    obtain ⟨sh', pc', hnext, -⟩ := hmove _ hstep
    cases hnext

end AsyncGDSClient

namespace SyncGDSClient

/-- A call is entered at its start only. -/
lemma Move.ne_send {cfg : Config} {i : ℕ} {sh sh' : Shared} {pc pc' : Pc}
    (h : Move cfg i sh pc sh' pc') (c : Call) : pc' ≠ .call c .send := by
  cases h <;> simp

/-- A move of its own is a move of one of its threads. -/
lemma thread_of_isOwn {l : Label} (hl : Session.isOwn l = true) : l.thread ≠ none := by
  cases l with
  | call | acknowledge | fail | send => cases hl
  | step | elapse | visit => exact Option.some_ne_none _

/-- What a thread does, if it is not the send of a request, is a move of its own. -/
lemma isOwn_of_thread {l : Label} {j : ℕ}
    (hl : Session.isOwn l = true ∨ ∃ request newGuid, l = .call request newGuid)
    (hthread : l.thread = some j) : Session.isOwn l = true := by
  refine hl.resolve_right ?_
  rintro ⟨request, newGuid, rfl⟩
  cases hthread

/-- A move of its own does not take a request past its send. -/
lemma own_ne_send {cfg : Config} {w w' : Wrapper} {l : Label} {j : ℕ} {pc : Pc}
    (hl : Session.isOwn l = true) (hthread : l.thread = some j) (hpc : w.threads[j]? = some pc)
    (h : step cfg w l = some w') (c : Call) : pc ≠ .call c .send := by
  rintro rfl
  have hmove : ∀ f : Shared → Pc → Option (Shared × Pc), w.move j f = some w' →
      f w.shared (.call c .send) ≠ none := by
    intro f hf hnone
    obtain ⟨pc, sh', pc', hpc', hnext, rfl⟩ := Pool.move_eq_some.mp hf
    cases hpc.symm.trans hpc'
    rw [hnone] at hnext
    cases hnext
  cases l with
  | call | acknowledge | fail | send => cases hl
  | step | elapse =>
    cases hthread
    exact hmove _ h rfl
  | visit =>
    cases hthread
    simp only [step] at h
    exact hmove _ h rfl

namespace Session

/-- What a step of a session does, given the label of its client. -/
inductive Effect (cfg : Config) (s : Session) : Option Gds.Label → Session → Prop
  /-- `Connect()` or `Close()` is called on the client. -/
  | calls (c : Gds.Call) (hc : (c.start cfg).isSendMessage = false) (disposed : Bool)
      (disposing : ℕ) :
    Effect cfg s (some (.call c))
      { s with client := s.client.spawn s.client.shared (c.start cfg), disposed, disposing }
  | flags (disposing : ℕ) : Effect cfg s none { s with disposing }
  /-- A request is called, or a thread of the wrapper moves. -/
  | wraps (l : SyncGDSClient.Label)
      (hl : isOwn l = true ∨ ∃ request newGuid, l = .call request newGuid) (wrapper : Wrapper)
      (h : SyncGDSClient.step cfg s.wrapper l = some wrapper) :
    Effect cfg s none { s with wrapper }
  | sends (j : ℕ) (c : Call) (stamp : Stamp)
      (hj : s.wrapper.threads[j]? = some (.call c .send))
      (hfree : ∀ i < s.client.threads.length, s.caller i ≠ some j) :
    Effect cfg s (some (.call (.send (c.request.send c.messageId) stamp)))
      { s with
        client := s.client.spawn s.client.shared
          ((Gds.Call.send (c.request.send c.messageId) stamp).start cfg)
        caller := Function.update s.caller s.client.threads.length (some j) }
  | raises (e : SocketEvent) (h : s.client.shared.socket.subscribed = true) :
    Effect cfg s (some (.raise e))
      { s with client := s.client.spawn (s.client.shared.raise e) e.start }
  | moves (l : Gds.Label) (text : String) (i : ℕ) (hl : l.thread = some i) (client : Client)
      (h : AsyncGDSClient.step cfg s.client l = some client) :
    Effect cfg s (some l) ((newer s.client client).foldr (react text) { s with client })

variable {cfg : Config} {s s' : Session} {l : Label}

/-- Every step of a session is one of these. -/
theorem step_cases (h : step cfg s l = some s') : Effect cfg s (clientLabel s l) s' := by
  cases l with
  | connect =>
    cases h
    exact .calls .connect rfl _ _
  | close =>
    cases h
    exact .calls .close rfl _ _
  | testDisposed =>
    simp only [step] at h
    split_ifs at h
    · cases h
      exact .flags _
    · cases h
      exact .flags _
  | closeDisposed =>
    simp only [step] at h
    split_ifs at h
    cases h
    exact .calls .close rfl _ _
  | request request newGuid =>
    obtain ⟨wrapper, hwrapper, rfl⟩ := Option.map_eq_some_iff.mp h
    exact .wraps _ (.inr ⟨request, newGuid, rfl⟩) wrapper hwrapper
  | send j stamp =>
    simp only [step, clientLabel] at h ⊢
    split at h
    · rename_i c hj
      split_ifs at h with hbusy
      cases h
      refine .sends j c stamp hj fun i hi heq => hbusy ⟨i, hi, heq⟩
    · cases h
  | raise e =>
    obtain ⟨client, hclient, rfl⟩ := Option.map_eq_some_iff.mp h
    simp only [AsyncGDSClient.step] at hclient
    split_ifs at hclient with hsubscribed
    cases hclient
    exact .raises e hsubscribed
  | client l text =>
    simp only [step] at h
    split_ifs at h with hl
    obtain ⟨client, hclient, rfl⟩ := Option.map_eq_some_iff.mp h
    obtain ⟨i, hi⟩ := Option.ne_none_iff_exists'.mp hl
    exact .moves l text i hi client hclient
  | wrapper l =>
    simp only [step] at h
    split_ifs at h with hl
    obtain ⟨wrapper, hwrapper, rfl⟩ := Option.map_eq_some_iff.mp h
    exact .wraps l (.inl hl) wrapper hwrapper

/-! ## The two halves -/

/-- A program point of `SendMessage` on behalf of a request. -/
def Serves (cfg : Config) (c : Call) (stamp : Stamp) : SendMessagePc → Prop
  | .testLoggedIn header data | .send header data =>
    (c.request.send c.messageId).arguments cfg.userName cfg.timeout stamp = (header, data)
  | .readState => True

/-- How thread `i` of the client stands to the request that it sends for. -/
def Link (cfg : Config) (s : Session) (i j : ℕ) : Prop :=
  (s.client.threads[i]? = some .done ∧
    ∃ pc, s.wrapper.threads[j]? = some pc ∧ ∀ c, pc ≠ .call c .send) ∨
  ∃ c stamp q, s.wrapper.threads[j]? = some (.call c .send) ∧
    s.client.threads[i]? = some (.sendMessage q) ∧ Serves cfg c stamp q

/-- The threads of the client that send are those of the requests that wait for them. -/
structure Linked (cfg : Config) (s : Session) : Prop where
  link : ∀ i j, s.caller i = some j → Link cfg s i j
  distinct : ∀ i i' j, s.caller i = some j → s.caller i' = some j → i = i'
  sends : ∀ i pc, s.client.threads[i]? = some pc → pc.isSendMessage = true →
    (s.caller i).isSome = true

lemma newer_eq {client client' : Client} {new : List Gds.Event}
    (h : client'.shared.log = new ++ client.shared.log) : newer client client' = new := by
  simp [newer, h]

/-- A thread of the client that sends for no request is not in `SendMessage`, and one that sends for
a request moves as the call as a whole says. -/
theorem client_move {i : ℕ} {l : Gds.Label} {client : Client} (hs : Linked cfg s)
    (hl : l.thread = some i) (h : AsyncGDSClient.step cfg s.client l = some client) :
    ∃ pc sh' pc', s.client.threads[i]? = some pc ∧
      client = ⟨sh', s.client.threads.set i pc'⟩ ∧
      ((s.caller i = none ∧ pc.isSendMessage = false ∧
          Gds.Move cfg i s.client.shared pc sh' pc') ∨
        ∃ j c stamp, s.caller i = some j ∧ s.wrapper.threads[j]? = some (.call c .send) ∧
          ((sh' = s.client.shared ∧ ∃ q', pc' = .sendMessage q' ∧ Serves cfg c stamp q') ∨
            ∃ tested shown, pc' = .done ∧
              sh' = s.client.shared.record
                (sendEvent i (c.send cfg tested shown stamp)))) := by
  cases hcaller : s.caller i with
  | none =>
    rcases AsyncGDSClient.step_cases h with ⟨c, rfl, -⟩ | ⟨e, rfl, -⟩ |
      ⟨k, pc, sh', pc', hk, hpc, hm, rfl⟩
    · cases hl
    · cases hl
    · obtain rfl : i = k := Option.some.inj (hl.symm.trans hk)
      refine ⟨pc, sh', pc', hpc, rfl, .inl ⟨rfl, ?_, hm⟩⟩
      by_contra hsend
      have hsome := hs.sends i pc hpc (by simpa using hsend)
      rw [hcaller] at hsome
      cases hsome
  | some j =>
    rcases hs.link i j hcaller with ⟨hdone, -⟩ | ⟨c, stamp, q, hj, hq, hserves⟩
    · -- a thread that is done does not move
      rcases AsyncGDSClient.step_cases h with ⟨c, rfl, -⟩ | ⟨e, rfl, -⟩ |
        ⟨k, pc, sh', pc', hk, hpc, hm, rfl⟩
      · cases hl
      · cases hl
      · obtain rfl : i = k := Option.some.inj (hl.symm.trans hk)
        cases hdone.symm.trans hpc
        cases hm
    · obtain ⟨sh', pc', hnext, rfl⟩ := AsyncGDSClient.sendMessage_move hl hq h
      refine ⟨_, sh', pc', hq, rfl, .inr ⟨j, c, stamp, rfl, hj, ?_⟩⟩
      cases q with
      | testLoggedIn header data =>
        obtain ⟨hallowed, hforbidden, -, -⟩ :=
          sendMessage_refines cfg i s.client.shared header data
        by_cases hstate : s.client.shared.state = .loggedIn
        · cases hnext.symm.trans (hallowed hstate)
          exact .inl ⟨rfl, _, rfl, hserves⟩
        · cases hnext.symm.trans (hforbidden hstate)
          exact .inl ⟨rfl, _, rfl, trivial⟩
      | readState =>
        obtain ⟨-, -, hreads, -⟩ := sendMessage_refines cfg i s.client.shared
          ((c.request.send c.messageId).arguments cfg.userName cfg.timeout stamp).1
          ((c.request.send c.messageId).arguments cfg.userName cfg.timeout stamp).2
        cases hnext.symm.trans (hreads .failed (by decide))
        exact .inr ⟨.failed, s.client.shared.state, rfl, rfl⟩
      | send header data =>
        obtain ⟨-, -, -, hsends⟩ := sendMessage_refines cfg i s.client.shared header data
        cases hnext.symm.trans (hsends .loggedIn)
        refine .inr ⟨.loggedIn, .loggedIn, rfl, ?_⟩
        have hsend : c.send cfg .loggedIn .loggedIn stamp =
            sendMessage cfg .loggedIn .loggedIn header data := by
          rw [Call.send, show _ = (header, data) from hserves]
        rw [hsend]

end Session

end SyncGDSClient

end Gds
