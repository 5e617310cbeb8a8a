import GdsSdk.Demo.MessageIds
import GdsSdk.Demo.SessionRuns
import GdsSdk.Websocket.Dispatch

/-!
# From the socket to the request

A session simulates its client and its wrapper, and what the two have told each other agrees.  So
the guarantees of the layers can be put together: the client dispatches every received message
once, the listener is called with every acknowledgement among them, and no callback answers two
requests.
-/

namespace Gds

open Transition

namespace SyncGDSClient

/-- A move that is not the send of a request hands nothing to the client. -/
lemma Move.handings_eq {cfg : Config} {i : ℕ} {sh sh' : Shared} {pc pc' : Pc}
    (h : Move cfg i sh pc sh' pc') (hpc : ∀ c, pc ≠ .call c .send) :
    handings sh'.log = handings sh.log := by
  cases h with
  | sendFails c | hands c => exact absurd rfl (hpc c)
  | ackSets | failureSets => rw [Shared.trySet_log]
  | _ => rfl

namespace Session

variable {cfg : Config} {s s' : Session} {l : Label} {ok : Guard Client Gds.Label}

/-! ## The client of a session -/

/-- What the socket of the client receives. -/
def received (s : Session) (l : Label) : Option (List UInt8) :=
  (clientLabel s l).bind (Gds.received s.client)

/-- The client is where its thread has moved to. -/
lemma Moved.client_eq {i : ℕ} {client : Client} (h : Moved cfg s i client s') :
    s'.client = client := by
  cases h with
  | listens new pc pc' sh' hpc hclient hcaller hsend hlog hlength hsent s' h => exact h.client
  | goesOn => rfl
  | replies => rfl

/-- The client takes the step that its label says. -/
lemma client_step {l : Option Gds.Label} (hs : Linked cfg s) (h : Effect cfg s l s') :
    (l = none ∧ s'.client = s.client) ∨
      ∃ l', l = some l' ∧ AsyncGDSClient.step cfg s.client l' = some s'.client := by
  cases h with
  | calls c => exact .inr ⟨_, rfl, rfl⟩
  | flags => exact .inl ⟨rfl, rfl⟩
  | wraps => exact .inl ⟨rfl, rfl⟩
  | sends => exact .inr ⟨_, rfl, rfl⟩
  | raises e hsubscribed => exact .inr ⟨_, rfl, by rw [AsyncGDSClient.step, if_pos hsubscribed]⟩
  | moves l text i hl client h =>
    refine .inr ⟨l, rfl, ?_⟩
    rw [(moved hs hl h text).client_eq]
    exact h

/-- A session that is observed at the socket simulates its client. -/
theorem simulates_client (cfg : Config) (ok : Guard Client Gds.Label) :
    ((system cfg).observe received).Simulates (System.observed (ClientGuard ok))
      ((AsyncGDSClient.system cfg).observe Gds.received) (System.observed ok)
      (fun p => Linked cfg p.1) (fun p => (p.1.client, p.2)) where
  init := rfl
  step := by
    rintro ⟨s, seen⟩ l ⟨s', seen'⟩ hs hok hstep
    obtain ⟨hnext, rfl⟩ := System.step_of_observe hstep
    have heffect : Effect cfg s (clientLabel s l) s' := step_cases hnext
    rcases client_step hs heffect with ⟨hnone, hclient⟩ | ⟨l', hl', hclient⟩
    · have hseen : (received s l).toList ++ seen = seen := by simp [received, hnone]
      rw [hseen, hclient]
      exact System.Reaches.refl _
    · have hseen : received s l = Gds.received s.client l' := by simp [received, hl']
      rw [hseen]
      exact (System.Reaches.refl _).step (l := l') (hok l' hl') (System.observe_step seen hclient)

/-- The client of a session, with what its socket has received, is in a state that it could have
come to by itself. -/
lemma client_reachable {p : Session × List (List UInt8)}
    (h : ((system cfg).observe received).Reachable (System.observed (ClientGuard ok)) p) :
    ((AsyncGDSClient.system cfg).observe Gds.received).Reachable (System.observed ok)
      (p.1.client, p.2) :=
  (simulates_client cfg ok).reachable (fun _ hp => linked (System.reachable_of_observe hp)) h

/-! ## The wrapper of a session -/

/-- A move of the client is a run of the wrapper, in which the call of a request is one step. -/
lemma Moved.wrapper_reaches {i : ℕ} {client : Client} (h : Moved cfg s i client s') :
    (SyncGDSClient.system cfg).Reaches Unrestricted s.wrapper s'.wrapper := by
  cases h with
  | listens new pc pc' sh' hpc hclient hcaller hsend hlog hlength hsent s' h => exact h.wrapper
  | goesOn => exact System.Reaches.refl _
  | replies j c stamp q tested shown hcaller hj hi hclient wrapper hwrapper =>
    have hstep : SyncGDSClient.step cfg s.wrapper (.send j tested shown stamp) = some wrapper := by
      obtain ⟨pc, shared, pc', hpc, hresume, rfl⟩ := Pool.move_eq_some.mp hwrapper
      cases hj.symm.trans hpc
      simp only [SyncGDSClient.step]
      refine Pool.move_eq_some.mpr ⟨_, shared, pc', hj, ?_, rfl⟩
      rw [send_eq_resume]
      exact hresume
    exact (System.Reaches.refl _).step (l := .send j tested shown stamp) trivial hstep

/-- The wrapper takes steps that it could take by itself. -/
lemma wrapper_reaches {l : Option Gds.Label} (hs : Linked cfg s) (h : Effect cfg s l s') :
    (SyncGDSClient.system cfg).Reaches Unrestricted s.wrapper s'.wrapper := by
  cases h with
  | calls => exact System.Reaches.refl _
  | flags => exact System.Reaches.refl _
  | wraps l hl wrapper h => exact (System.Reaches.refl _).step trivial h
  | sends => exact System.Reaches.refl _
  | raises => exact System.Reaches.refl _
  | moves l text i hl client h => exact (moved hs hl h text).wrapper_reaches

/-- A session simulates its wrapper. -/
theorem simulates_wrapper (cfg : Config) (ok : Guard Session Label) :
    (system cfg).Simulates ok (SyncGDSClient.system cfg) Unrestricted (Linked cfg)
      Session.wrapper where
  init := rfl
  step _ _ _ hs _ hstep := wrapper_reaches hs (step_cases hstep)

/-- The wrapper of a session is in a state that it could have come to by itself. -/
lemma wrapper_reachable {ok : Guard Session Label} (h : (system cfg).Reachable ok s) :
    (SyncGDSClient.system cfg).Reachable Unrestricted s.wrapper :=
  (simulates_wrapper cfg ok).reachable (fun _ hs => linked hs) h

/-- In every run of a wrapper with its client, whatever the order of the calls of the user, the
events of the socket and the steps of all threads: the client is in a state that it comes to in a
run of its own, under every condition on its steps that the session keeps to, and so is the
wrapper. -/
theorem session_refines (h : (system cfg).Reachable (ClientGuard ok) s) :
    (AsyncGDSClient.system cfg).Reachable ok s.client ∧
      (SyncGDSClient.system cfg).Reachable Unrestricted s.wrapper := by
  obtain ⟨seen, hseen⟩ := System.exists_observed received h
  exact ⟨System.reachable_of_observe (client_reachable hseen), wrapper_reachable h⟩

/-! ## What the two have told each other -/

/-- The histories of the client and of the wrapper agree. -/
structure Agrees (s : Session) : Prop where
  acks : acknowledged s.wrapper = s.client.shared.log.filterMap passed
  refusals : s.unhandled = s.client.shared.log.filterMap refused
  hands : handings s.wrapper.shared.log = s.client.shared.log.filterMap (sentFor s.caller)
  callers : ∀ i binary, .sent i binary ∈ s.client.shared.log →
    (s.caller i).isSome = true ∧ i < s.client.threads.length

/-- A step of the wrapper that is not the send of a request tells the client nothing. -/
lemma agrees_wraps {l : SyncGDSClient.Label}
    (hl : isOwn l = true ∨ ∃ request newGuid, l = .call request newGuid) {w wrapper : Wrapper}
    (h : SyncGDSClient.step cfg w l = some wrapper) :
    acknowledged wrapper = acknowledged w ∧
      handings wrapper.shared.log = handings w.shared.log := by
  rcases SyncGDSClient.step_cases h with ⟨sh', pc', hthread, hstart, rfl⟩ |
    ⟨k, pc, sh', pc', hthread, hpc, hm, rfl⟩
  · rcases hl with hown | ⟨request, newGuid, rfl⟩
    · exact absurd hthread (thread_of_isOwn hown)
    · cases hstart <;> exact ⟨rfl, rfl⟩
  · have hown := isOwn_of_thread hl hthread
    refine ⟨?_, hm.handings_eq (own_ne_send hown hthread hpc h)⟩
    simp only [acknowledged, hm.deliveries_eq]

/-- A move of the client keeps the histories in agreement. -/
lemma agrees_moved {i : ℕ} {client : Client} (h : Agrees s) (hmoved : Moved cfg s i client s') :
    Agrees s' := by
  cases hmoved with
  | listens new pc pc' sh' hpc hclient hcaller hsend hlog hlength hsent s' hs' =>
    subst hclient
    have hclient : s'.client.shared.log = new ++ s.client.shared.log := by
      rw [hs'.client]
      exact hlog
    have hnone : new.filterMap (sentFor s.caller) = [] := by
      refine List.filterMap_eq_nil_iff.mpr fun e he => ?_
      have hquiet := hsent e he
      cases e with
      | sent => cases hquiet
      | _ => rfl
    refine ⟨?_, ?_, ?_, fun k binary hk => ?_⟩
    · rw [hs'.acks, hclient, List.filterMap_append]
      exact congrArg _ h.acks
    · rw [hs'.refusals, hclient, List.filterMap_append]
      exact congrArg _ h.refusals
    · rw [hs'.hands, hs'.caller, hclient, List.filterMap_append, hnone]
      exact h.hands
    · rw [hclient, List.mem_append] at hk
      rcases hk with hk | hk
      · cases hsent _ hk
      · obtain ⟨hsome, hlt⟩ := h.callers k binary hk
        refine ⟨by rw [hs'.caller]; exact hsome, ?_⟩
        rw [hs'.client, List.length_set]
        exact hlt
  | goesOn j c stamp q q' hcaller hj hi hserves hclient =>
    subst hclient
    refine ⟨h.acks, h.refusals, h.hands, fun k binary hk => ?_⟩
    rw [List.length_set]
    exact h.callers k binary hk
  | replies j c stamp q tested shown hcaller hj hi hclient wrapper hwrapper =>
    subst hclient
    obtain ⟨pc, shared, pc', hpc, hresume, rfl⟩ := Pool.move_eq_some.mp hwrapper
    cases hj.symm.trans hpc
    have hlt : i < s.client.threads.length := (List.getElem?_eq_some_iff.mp hi).1
    cases hsend : c.send cfg tested shown stamp with
    | error e =>
      rw [hsend] at hresume
      cases hresume
      refine ⟨h.acks, h.refusals, h.hands, fun k binary hk => ?_⟩
      rw [List.length_set]
      exact h.callers k binary (by simpa [sendEvent] using hk)
    | ok binary =>
      rw [hsend] at hresume
      cases hresume
      refine ⟨h.acks, h.refusals, ?_, fun k binary' hk => ?_⟩
      · have hsentFor : sentFor s.caller (.sent i binary) = some (j, binary) := by
          rw [sentFor, hcaller]
          rfl
        rw [Shared.record, Gds.Shared.record, sendEvent, List.filterMap_cons_some hsentFor,
          ← h.hands]
        rfl
      · rw [List.length_set]
        rcases List.mem_cons.mp hk with heq | hk
        · cases heq
          exact ⟨by rw [hcaller]; rfl, hlt⟩
        · exact h.callers k binary' hk

/-- Every step keeps the histories in agreement. -/
lemma agrees_effect {l : Option Gds.Label} (hs : Linked cfg s) (h : Agrees s)
    (heffect : Effect cfg s l s') : Agrees s' := by
  have hspawn : ∀ (shared : Gds.Shared) (pc : Gds.Pc) i binary,
      .sent i binary ∈ s.client.shared.log →
      (s.caller i).isSome = true ∧ i < (s.client.spawn shared pc).threads.length := by
    intro shared pc i binary hi
    obtain ⟨hsome, hlt⟩ := h.callers i binary hi
    refine ⟨hsome, ?_⟩
    rw [Pool.spawn, List.length_append]
    omega
  cases heffect with
  | calls c => exact ⟨h.acks, h.refusals, h.hands, hspawn _ _⟩
  | flags => exact ⟨h.acks, h.refusals, h.hands, h.callers⟩
  | wraps l hl wrapper hstep =>
    obtain ⟨hacks, hhands⟩ := agrees_wraps hl hstep
    exact ⟨hacks.trans h.acks, h.refusals, hhands.trans h.hands, h.callers⟩
  | sends j c stamp hj hfree =>
    -- the new thread has sent nothing
    have hupdate : ∀ i, i < s.client.threads.length →
        Function.update s.caller s.client.threads.length (some j) i = s.caller i :=
      fun i hi => Function.update_of_ne (Nat.ne_of_lt hi) _ _
    refine ⟨h.acks, h.refusals, h.hands.trans (List.filterMap_congr fun e he => ?_),
      fun i binary hi => ?_⟩
    · cases e with
      | sent i binary =>
        simp only [sentFor]
        rw [hupdate i (h.callers i binary he).2]
      | _ => rfl
    · obtain ⟨hsome, hlt⟩ := hspawn s.client.shared
        ((Gds.Call.send (c.request.send c.messageId) stamp).start cfg) i binary hi
      refine ⟨?_, hlt⟩
      simp only
      rw [hupdate i (h.callers i binary hi).2]
      exact hsome
  | raises e => exact ⟨h.acks, h.refusals, h.hands, hspawn _ _⟩
  | moves l text i hl client hstep => exact agrees_moved h (moved hs hl hstep text)

/-- The histories of the client and of the wrapper agree in every run. -/
lemma agrees {ok : Guard Session Label} (h : (system cfg).Reachable ok s) : Agrees s := by
  refine h.invariant_of (J := Linked cfg) (I := Agrees) (fun s hs => linked hs) ?_ ?_
  · constructor <;> simp [system, init, AsyncGDSClient.system, Gds.Shared.init,
      SyncGDSClient.system, Shared.init, acknowledged, deliveries, handings]
  · intro s l s' hs hagrees _ hstep
    exact agrees_effect hs hagrees (step_cases hstep)

/-- In every run of a wrapper with its client: the wrapper's callbacks were called with just the
acknowledgements that the client has delivered, in their order, and the other messages that it has
delivered have made the listener throw; the messages that the requests have handed to the client
are just those that the client has handed to the socket, in their order, each for the request that
its thread sends for; and no request has two threads that send for it. -/
theorem session_agrees {ok : Guard Session Label} (h : (system cfg).Reachable ok s) :
    acknowledged s.wrapper = s.client.shared.log.filterMap passed ∧
    s.unhandled = s.client.shared.log.filterMap refused ∧
    handings s.wrapper.shared.log = s.client.shared.log.filterMap (sentFor s.caller) ∧
    (∀ i binary, .sent i binary ∈ s.client.shared.log → (s.caller i).isSome = true) ∧
    ∀ i i' j, s.caller i = some j → s.caller i' = some j → i = i' := by
  have hagrees := agrees h
  exact ⟨hagrees.acks, hagrees.refusals, hagrees.hands,
    fun i binary hi => (hagrees.callers i binary hi).1, (linked h).distinct⟩

/-! ## End to end -/

/-- The acknowledgement that the bytes are the encoding of, with the identifier in its header. -/
def ackOf (cfg : Config) (binary : List UInt8) : Option (Option String × Ack) :=
  match MessageManager.getMessageFromBinary cfg.wire binary with
  | .ok ⟨header, some data⟩ => (Ack.ofData data).map fun ack => (header.messageId, ack)
  | _ => none

/-- The acknowledgement in a message. -/
def messageAck (m : MessageHeader × MessageData) : Option (Option String × Ack) :=
  (Ack.ofData m.2).map fun ack => (m.1.messageId, ack)

/-- The client passes on what is decoded as an acknowledgement. -/
lemma messageAck_dispatch (binary : List UInt8) :
    (OnMessageReceived.dispatch cfg binary).bind messageAck = ackOf cfg binary := by
  unfold OnMessageReceived.dispatch ackOf
  cases MessageManager.getMessageFromBinary cfg.wire binary with
  | error e => rfl
  | ok m =>
    obtain ⟨header, _ | data⟩ := m
    · rfl
    · cases data <;> rfl

/-- The acknowledgements that the callbacks were called with are those among the messages that the
client has dispatched. -/
lemma deliveredAcks_eq (h : Agrees s) :
    deliveredAcks s.wrapper.shared.log = (dispatched s.client.shared).filterMap messageAck := by
  have hmap : deliveredAcks s.wrapper.shared.log =
      (acknowledged s.wrapper).map fun d => (d.1.messageId, d.2) := by
    rw [deliveredAcks, acknowledged, List.map_map]
    rfl
  rw [hmap, h.acks, dispatched, List.map_filterMap, List.filterMap_filterMap]
  refine List.filterMap_congr fun e _ => ?_
  cases e with
  | delivered header data =>
    simp only [passed, Gds.Event.dispatched, Option.bind_some, messageAck, Option.map_map]
    rfl
  | _ => rfl

/-- In every run of a wrapper with its client, whatever the socket receives: the acknowledgements
that the requests have returned, each with the identifier of its request, are with their
repetitions among those that were decoded from what was received; and the message of each request
that has returned was handed to the socket after an acknowledgement of the login with status OK
had been accepted.  On the wire it has the identifier that the call sends, which is that of the
request if and only if a header that was given has an identifier and no other one was given. -/
theorem endToEnd {p : Session × List (List UInt8)}
    (h : ((system cfg).observe received).Reachable
      (System.observed (ClientGuard AsyncGDSClient.Unrestricted)) p) :
    (returnedAcks p.1.wrapper.shared.log).Subperm (p.2.filterMap (ackOf cfg)) ∧
    ∀ j ack, .returned j ack ∈ p.1.wrapper.shared.log → ∃ c i binary newer older,
      .called j c ∈ p.1.wrapper.shared.log ∧ p.1.caller i = some j ∧
      p.1.client.shared.log = newer ++ .sent i binary :: older ∧
      (∃ header ackData, .accepted header ackData ∈ older ∧ ackData.status = .ok) ∧
      ∃ header, wireHeader cfg.wire binary = .ok header ∧ header.messageId = c.sentId ∧
        (header.messageId = some c.messageId ↔ c.request.IdsAgree) := by
  have hsession := System.reachable_of_observe h
  have hwrapper := wrapper_reachable hsession
  have hclient := client_reachable h
  have hagrees := agrees hsession
  refine ⟨?_, fun j ack hreturned => ?_⟩
  · obtain ⟨found, hperm, hsublist⟩ := (AsyncGDSClient.inBalance hclient).subperm
    have hdispatched : (deliveredAcks p.1.wrapper.shared.log).Subperm
        (p.2.filterMap (ackOf cfg)) := by
      rw [deliveredAcks_eq hagrees]
      refine ⟨found.filterMap messageAck, hperm.filterMap _, ?_⟩
      have hmap := hsublist.filterMap messageAck
      rw [List.filterMap_filterMap] at hmap
      simpa only [messageAck_dispatch] using hmap
    exact (returnedAcks_subperm hwrapper).trans hdispatched
  · obtain ⟨answerer, hmatches⟩ := exists_matches hwrapper
    obtain ⟨c, -, binary, hcall, -, hhanded, hsends, -⟩ :=
      answered_of_returned hwrapper hmatches hreturned
    -- the message that was handed over is one that the client has sent
    have hsent : ∃ i, p.1.caller i = some j ∧ .sent i binary ∈ p.1.client.shared.log := by
      have hmem : (j, binary) ∈ handings p.1.wrapper.shared.log :=
        List.mem_filterMap.mpr ⟨_, hhanded, rfl⟩
      rw [hagrees.hands] at hmem
      obtain ⟨e, he, heq⟩ := List.mem_filterMap.mp hmem
      cases e with
      | sent i binary' =>
        obtain ⟨j', hcaller, hpair⟩ := Option.map_eq_some_iff.mp heq
        cases hpair
        exact ⟨i, hcaller, he⟩
      | _ => cases heq
    obtain ⟨i, hcaller, hsent⟩ := hsent
    obtain ⟨newer, older, hlog⟩ := List.append_of_mem hsent
    have hlawful := lawful_iff.mp
      (AsyncGDSClient.sendHistory (System.reachable_of_observe hclient)).lawful newer _ older hlog
    obtain ⟨header, hheader, hid⟩ := hsends.wireHeader
    refine ⟨c, i, binary, newer, older, hcall, hcaller, hlog, ?_, header, hheader, hid, ?_⟩
    swap
    · rw [hid]
      exact c.sentId_eq_iff
    cases hlawful with
    | other hother => exact absurd rfl (hother i binary)
    | sent haccepted =>
      obtain ⟨e, he, hok⟩ := List.any_eq_true.mp haccepted
      cases e with
      | accepted header ackData => exact ⟨header, ackData, he, of_decide_eq_true hok⟩
      | _ => cases hok

/-! ## A run -/

namespace Runs

/-- The binary of an acknowledgement of an insertion with the identifier "m". -/
def eventAckBinary : List UInt8 :=
  [0x9b, 0xc0, 0xa1, 0x6d, 0, 0, 0xc2, 0xc0, 0xc0, 0xc0, 0xc0, 3, 0x93, 0xcc, 0xc8, 0xc0, 0xc0]

/-- `n` steps of thread `i` of the client. -/
def clientSteps (n i : ℕ) : List Label := List.replicate n (.client (.step i) "")

/-- `n` steps of thread `i` of the wrapper. -/
def wrapperSteps (n i : ℕ) : List Label := List.replicate n (.wrapper (.step i))

/-- The client connects and is logged in. -/
def login : List Label :=
  .connect :: clientSteps 5 0 ++ .raise (.opened Scenario.stamp) :: clientSteps 4 1 ++
    .raise (.dataReceived Scenario.positiveAck) :: clientSteps 4 2

/-- An insertion is sent, acknowledged and returns. -/
def insertion : List Label :=
  .request (SyncGDSClient.Runs.event (some "m") none) "guid" :: .send 0 Scenario.stamp ::
    clientSteps 2 3 ++ wrapperSteps 1 0 ++ .raise (.dataReceived eventAckBinary) ::
    clientSteps 2 4 ++ wrapperSteps 2 1 ++ wrapperSteps 4 0

/-- The insertion has returned one acknowledgement. -/
lemma exists_insertion : ∃ p : Session × List (List UInt8),
    ((system Scenario.cfg).observe received).Reachable
      (System.observed (ClientGuard AsyncGDSClient.Unrestricted)) p ∧
    (results p.1.wrapper.shared.log).length = 1 ∧
      p.2 = [eventAckBinary, Scenario.positiveAck] :=
  System.exists_reachable (login ++ insertion) (by decide +kernel)

end Runs

/-- A session in which an insertion has returned. -/
theorem session_refines_insertion : ∃ s : Session,
    (results s.wrapper.shared.log).length = 1 ∧
    (AsyncGDSClient.system Scenario.cfg).Reachable AsyncGDSClient.Unrestricted s.client ∧
    (SyncGDSClient.system Scenario.cfg).Reachable Unrestricted s.wrapper := by
  obtain ⟨p, hreach, hresults, -⟩ := Runs.exists_insertion
  exact ⟨p.1, hresults, session_refines (System.reachable_of_observe hreach)⟩

/-- The insertion that has returned was handed over to the socket. -/
theorem session_agrees_insertion : ∃ s : Session,
    (results s.wrapper.shared.log).length = 1 ∧
    acknowledged s.wrapper = s.client.shared.log.filterMap passed ∧
    handings s.wrapper.shared.log = s.client.shared.log.filterMap (sentFor s.caller) := by
  obtain ⟨p, hreach, hresults, -⟩ := Runs.exists_insertion
  obtain ⟨hacks, -, hhands, -⟩ := session_agrees (System.reachable_of_observe hreach)
  exact ⟨p.1, hresults, hacks, hhands⟩

/-- What the insertion has returned is what was received after the login. -/
theorem endToEnd_insertion : ∃ s : Session,
    (results s.wrapper.shared.log).length = 1 ∧
    (returnedAcks s.wrapper.shared.log).Subperm
      ([Runs.eventAckBinary, Scenario.positiveAck].filterMap (ackOf Scenario.cfg)) := by
  obtain ⟨p, hreach, hresults, hseen⟩ := Runs.exists_insertion
  refine ⟨p.1, hresults, ?_⟩
  rw [← hseen]
  exact (endToEnd hreach).1

end Session

end SyncGDSClient

end Gds
