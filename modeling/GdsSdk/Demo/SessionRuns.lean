import GdsSdk.Demo.SessionSteps

/-!
# Runs of a session

In every run of a session its two halves stay linked.  From this it follows that each half does
nothing that it could not do by itself: a session simulates its client as well as its wrapper, so
that what is known of every run of the one or the other is known of every session.  And it follows
that the two agree on what they have told each other: no acknowledgement is lost or invented
between the client and the wrapper, and no message between a request and the socket.
-/

namespace Gds

open Transition

namespace SyncGDSClient

/-- The acknowledgement that an event of the client passes to the wrapper. -/
def passed : Gds.Event → Option (MessageHeader × Ack)
  | .delivered header data => (Ack.ofData data).map fun ack => (header, ack)
  | _ => none

/-- The message that the listener refuses when the client passes it. -/
def refused : Gds.Event → Option (MessageHeader × MessageData)
  | .delivered header data => if (Ack.ofData data).isNone then some (header, data) else none
  | _ => none

/-- The message that an event hands to the client, with the thread of its request. -/
def Event.handing : Event → Option (ℕ × List UInt8)
  | handed j binary => some (j, binary)
  | _ => none

/-- The messages that the requests have handed to the client, newest first. -/
def handings (log : List Event) : List (ℕ × List UInt8) := log.filterMap Event.handing

/-- The message that an event hands to the socket, with the thread of the request that it is sent
for. -/
def sentFor (caller : ℕ → Option ℕ) : Gds.Event → Option (ℕ × List UInt8)
  | .sent i binary => (caller i).map fun j => (j, binary)
  | _ => none

/-- The request has still to be sent. -/
def Pc.isSend : Pc → Bool
  | .call _ .send => true
  | _ => false

lemma Pc.isSend_iff {pc : Pc} : pc.isSend = true ↔ ∃ c, pc = .call c .send := by
  constructor
  · intro h
    unfold isSend at h
    split at h
    · exact ⟨_, rfl⟩
    · cases h
  · rintro ⟨c, rfl⟩
    rfl

/-- How many requests have still to be sent. -/
def unsent (w : Wrapper) : ℕ := w.threads.countP Pc.isSend

/-- A step of the wrapper that is its own sends no request. -/
lemma unsent_own {cfg : Config} {w w' : Wrapper} {l : Label} (hl : Session.isOwn l = true)
    (h : step cfg w l = some w') : unsent w' = unsent w := by
  rcases step_cases h with ⟨sh', pc', hthread, -, -⟩ | ⟨i, pc, sh', pc', hthread, hpc, hm, rfl⟩
  · exact absurd hthread (thread_of_isOwn hl)
  · have hsend : pc.isSend = false := by
      rw [← Bool.not_eq_true, Pc.isSend_iff]
      rintro ⟨c, hc⟩
      exact own_ne_send hl hthread hpc h c hc
    have hsend' : pc'.isSend = false := by
      rw [← Bool.not_eq_true, Pc.isSend_iff]
      rintro ⟨c, hc⟩
      exact hm.ne_send c hc
    have hset := Pool.countP_set_add Pc.isSend pc' hpc
    rw [hsend, hsend'] at hset
    exact hset

/-- The thread is a callback of the listener. -/
def Pc.isCallback : Pc → Bool
  | .onAck _ | .onConnectionFailure _ => true
  | _ => false

/-- The acknowledgements that the listener was called with, newest first. -/
def acknowledged (w : Wrapper) : List (MessageHeader × Ack) :=
  (deliveries w.shared.log).map Prod.snd

namespace Session

variable {cfg : Config} {s s' s'' : Session} {i j : ℕ}

/-! ## The listener -/

/-- The events of the client are heard by the listener, which starts at most one callback for each,
and touch no request. -/
structure Listens (cfg : Config) (new : List Gds.Event) (s s' : Session) : Prop where
  client : s'.client = s.client
  caller : s'.caller = s.caller
  wrapper : (SyncGDSClient.system cfg).Reaches Unrestricted s.wrapper s'.wrapper
  callbacks : ∃ started : List SyncGDSClient.Pc,
    s'.wrapper.threads = s.wrapper.threads ++ started ∧ started.length ≤ new.length ∧
      ∀ pc ∈ started, pc.isCallback = true
  acks : acknowledged s'.wrapper = new.filterMap passed ++ acknowledged s.wrapper
  refusals : s'.unhandled = new.filterMap refused ++ s.unhandled
  hands : handings s'.wrapper.shared.log = handings s.wrapper.shared.log

lemma Listens.refl (cfg : Config) (s : Session) : Listens cfg [] s s :=
  ⟨rfl, rfl, System.Reaches.refl _, ⟨[], by simp⟩, rfl, rfl, rfl⟩

lemma Listens.trans {new new' : List Gds.Event} (h : Listens cfg new s s')
    (h' : Listens cfg new' s' s'') : Listens cfg (new' ++ new) s s'' where
  client := h'.client.trans h.client
  caller := h'.caller.trans h.caller
  wrapper := h.wrapper.trans h'.wrapper
  callbacks := by
    obtain ⟨started, hthreads, hlength, hcallbacks⟩ := h.callbacks
    obtain ⟨started', hthreads', hlength', hcallbacks'⟩ := h'.callbacks
    refine ⟨started ++ started', ?_, ?_, List.forall_mem_append.mpr ⟨hcallbacks, hcallbacks'⟩⟩
    · rw [hthreads', hthreads, List.append_assoc]
    · rw [List.length_append, List.length_append]
      omega
  acks := by rw [h'.acks, h.acks, List.filterMap_append, List.append_assoc]
  refusals := by rw [h'.refusals, h.refusals, List.filterMap_append, List.append_assoc]
  hands := h'.hands.trans h.hands

/-- The threads of the wrapper stay where they are. -/
lemma Listens.at {new : List Gds.Event} (h : Listens cfg new s s') {pc : SyncGDSClient.Pc}
    (hpc : s.wrapper.threads[j]? = some pc) : s'.wrapper.threads[j]? = some pc := by
  obtain ⟨started, hthreads, -, -⟩ := h.callbacks
  rw [hthreads, List.getElem?_append_left (List.getElem?_eq_some_iff.mp hpc).1, hpc]

/-- No request has still to be sent that had not before. -/
lemma Listens.unsent_eq {new : List Gds.Event} (h : Listens cfg new s s') :
    unsent s'.wrapper = unsent s.wrapper := by
  obtain ⟨started, hthreads, -, hcallbacks⟩ := h.callbacks
  have hnone : started.countP Pc.isSend = 0 := by
    refine List.countP_eq_zero.mpr fun pc hpc => ?_
    have hcallback := hcallbacks pc hpc
    cases pc with
    | call | done => cases hcallback
    | onAck | onConnectionFailure => exact Bool.false_ne_true
  rw [unsent, hthreads, List.countP_append, hnone]
  rfl

/-- The listener is called with an acknowledgement. -/
lemma listens_acknowledge {header : MessageHeader} {data : MessageData} {ack : Ack}
    (hack : Ack.ofData data = some ack) :
    Listens cfg [.delivered header data] s
      { s with wrapper := acknowledge s.wrapper header ack } where
  client := rfl
  caller := rfl
  wrapper := (System.Reaches.refl _).step (l := .acknowledge header ack) trivial rfl
  callbacks := ⟨[.onAck (.tryRemove header ack)], rfl, Nat.le_refl _, by simp [Pc.isCallback]⟩
  acks := by
    simp [passed, hack, acknowledged, acknowledge, Pool.spawn, deliveries, Event.delivery]
  refusals := by simp [refused, hack]
  hands := rfl

/-- An event of the client that ends no request's call is heard by the listener or by nobody. -/
lemma listens_react (text : String) {e : Gds.Event}
    (he : ∀ k, e.ended = some k → s.caller k = none) : Listens cfg [e] s (react text e s) := by
  have hreply : ∀ k outcome, s.caller k = none → s.reply k outcome = s := by
    intro k outcome hk
    unfold reply
    rw [hk]
  have hquiet : passed e = none → refused e = none → Listens cfg [e] s s := by
    intro hpassed hrefused
    refine ⟨rfl, rfl, System.Reaches.refl _, ⟨[], by simp⟩, ?_, ?_, rfl⟩
    · simp [hpassed]
    · simp [hrefused]
  cases e with
  | delivered header data =>
    cases hack : Ack.ofData data with
    | some ack =>
      simp only [react, hack]
      exact listens_acknowledge hack
    | none =>
      simp only [react, hack]
      refine ⟨rfl, rfl, System.Reaches.refl _, ⟨[], by simp⟩, ?_, ?_, rfl⟩
      · simp [passed, hack]
      · simp [refused, hack]
  | onConnectionFailure cause =>
    refine ⟨rfl, rfl, ?_, ⟨[.onConnectionFailure (.getEnumerator text)], rfl, Nat.le_refl _, ?_⟩, rfl,
      rfl, rfl⟩
    · exact (System.Reaches.refl _).step (l := .fail text) trivial rfl
    · simp [Pc.isCallback]
  | sent k binary =>
    rw [react, hreply k _ (he k rfl)]
    exact hquiet rfl rfl
  | threw k e =>
    rw [react, hreply k _ (he k rfl)]
    exact hquiet rfl rfl
  | _ => exact hquiet rfl rfl

/-- Events of the client that end no request's call are heard one after the other. -/
lemma listens_foldr (text : String) {new : List Gds.Event}
    (hnew : ∀ e ∈ new, ∀ k, e.ended = some k → s.caller k = none) :
    Listens cfg new s (new.foldr (react text) s) := by
  induction new with
  | nil => exact .refl cfg s
  | cons e new ih =>
    have hrest := ih fun e he => hnew e (List.mem_cons_of_mem _ he)
    have hfirst : Listens cfg [e] (new.foldr (react text) s)
        (react text e (new.foldr (react text) s)) := by
      refine listens_react text fun k hk => ?_
      rw [hrest.caller]
      exact hnew e List.mem_cons_self k hk
    exact hrest.trans hfirst

/-! ## Links -/

/-- A link is kept where both threads stay where they are. -/
lemma Link.mono (h : Link cfg s i j)
    (hclient : ∀ pc, s.client.threads[i]? = some pc → s'.client.threads[i]? = some pc)
    (hwrapper : ∀ pc, s.wrapper.threads[j]? = some pc → s'.wrapper.threads[j]? = some pc) :
    Link cfg s' i j := by
  rcases h with ⟨hdone, pc, hpc, hne⟩ | ⟨c, stamp, q, hj, hi, hserves⟩
  · exact .inl ⟨hclient _ hdone, pc, hwrapper _ hpc, hne⟩
  · exact .inr ⟨c, stamp, q, hwrapper _ hj, hclient _ hi, hserves⟩

/-- A thread of the client that starts is not in `SendMessage`. -/
lemma linked_spawn (hs : Linked cfg s) {shared : Gds.Shared} {pc : Gds.Pc}
    (hpc : pc.isSendMessage = false) (disposed : Bool) (disposing : ℕ) :
    Linked cfg { s with client := s.client.spawn shared pc, disposed, disposing } where
  link i j hcaller := (hs.link i j hcaller).mono (fun _ h => Pool.at_spawn h) fun _ h => h
  distinct := hs.distinct
  sends i q hq hsend := by
    simp only [Pool.spawn] at hq
    by_cases hi : i < s.client.threads.length
    · rw [List.getElem?_append_left hi] at hq
      exact hs.sends i q hq hsend
    · rw [List.getElem?_append_right (Nat.le_of_not_lt hi)] at hq
      rw [List.mem_singleton.mp (List.mem_of_getElem? hq), hpc] at hsend
      cases hsend

/-- The wrapper takes a step that is not the send of a request. -/
lemma linked_wraps (hs : Linked cfg s) {l : SyncGDSClient.Label}
    (hl : isOwn l = true ∨ ∃ request newGuid, l = .call request newGuid) {wrapper : Wrapper}
    (h : SyncGDSClient.step cfg s.wrapper l = some wrapper) :
    Linked cfg { s with wrapper } where
  distinct := hs.distinct
  sends := hs.sends
  link i j hcaller := by
    have hlink := hs.link i j hcaller
    rcases SyncGDSClient.step_cases h with ⟨sh', pc', -, -, rfl⟩ |
      ⟨k, pc, sh', pc', hthread, hpc, hm, rfl⟩
    · exact hlink.mono (fun _ h => h) fun _ h => Pool.at_spawn h
    · by_cases hkj : k = j
      · subst hkj
        have hown := isOwn_of_thread hl hthread
        rcases hlink with ⟨hdone, -⟩ | ⟨c, stamp, q, hj, -⟩
        · exact .inl ⟨hdone, pc', Pool.at_set hpc, hm.ne_send⟩
        · cases hpc.symm.trans hj
          exact absurd rfl (own_ne_send hown hthread hpc h c)
      · refine hlink.mono (fun _ h => h) fun _ h => ?_
        rwa [List.getElem?_set_ne hkj]

/-- A request calls the client. -/
lemma linked_sends (hs : Linked cfg s) {c : Call} {stamp : Stamp}
    (hj : s.wrapper.threads[j]? = some (.call c .send))
    (hfree : ∀ i < s.client.threads.length, s.caller i ≠ some j) :
    Linked cfg { s with
      client := s.client.spawn s.client.shared
        ((Gds.Call.send (c.request.send c.messageId) stamp).start cfg)
      caller := Function.update s.caller s.client.threads.length (some j) } := by
  -- who sends for a request has started
  have hlt : ∀ i j', s.caller i = some j' → i < s.client.threads.length := by
    intro i j' hcaller
    rcases hs.link i j' hcaller with ⟨hi, -⟩ | ⟨_, _, _, -, hi, -⟩
    · exact (List.getElem?_eq_some_iff.mp hi).1
    · exact (List.getElem?_eq_some_iff.mp hi).1
  have hnot : ∀ i, s.caller i ≠ some j := fun i hcaller => hfree i (hlt i j hcaller) hcaller
  have hcases : ∀ i j', Function.update s.caller s.client.threads.length (some j) i = some j' →
      (i = s.client.threads.length ∧ j' = j) ∨ s.caller i = some j' := by
    intro i j' heq
    rw [Function.update_apply] at heq
    split_ifs at heq with hi
    · exact .inl ⟨hi, (Option.some.inj heq).symm⟩
    · exact .inr heq
  refine ⟨fun i j' hcaller => ?_, fun i i' j' hcaller hcaller' => ?_, fun i q hq hsend => ?_⟩
  · rcases hcases i j' hcaller with ⟨rfl, rfl⟩ | hold
    · refine .inr ⟨c, stamp, .testLoggedIn _ _, hj, ?_, rfl⟩
      simp only [Pool.spawn, List.getElem?_concat_length]
      rfl
    · exact (hs.link i j' hold).mono (fun _ h => Pool.at_spawn h) fun _ h => h
  · rcases hcases i j' hcaller with ⟨rfl, rfl⟩ | hold
    · rcases hcases i' j' hcaller' with ⟨rfl, -⟩ | hold'
      · rfl
      · exact absurd hold' (hnot i')
    · rcases hcases i' j' hcaller' with ⟨rfl, rfl⟩ | hold'
      · exact absurd hold (hnot i)
      · exact hs.distinct i i' j' hold hold'
  · simp only [Function.update_apply]
    split_ifs with hi
    · rfl
    · simp only [Pool.spawn] at hq
      by_cases hlt : i < s.client.threads.length
      · rw [List.getElem?_append_left hlt] at hq
        exact hs.sends i q hq hsend
      · have hbound := (List.getElem?_eq_some_iff.mp hq).1
        rw [List.length_append, List.length_singleton] at hbound
        omega

/-! ## Moves of the client -/

/-- What a move of thread `i` of the client makes of a session. -/
inductive Moved (cfg : Config) (s : Session) (i : ℕ) (client : Client) : Session → Prop
  /-- The thread sends for no request, and the listener hears of what it does. -/
  | listens (new : List Gds.Event) (pc pc' : Gds.Pc) (sh' : Gds.Shared)
      (hpc : s.client.threads[i]? = some pc)
      (hclient : client = ⟨sh', s.client.threads.set i pc'⟩) (hcaller : s.caller i = none)
      (hsend : pc'.isSendMessage = false)
      (hlog : sh'.log = new ++ s.client.shared.log) (hlength : new.length ≤ 2)
      (hsent : ∀ e ∈ new, e.isSent = false)
      (s' : Session) (h : Listens cfg new { s with client } s') : Moved cfg s i client s'
  /-- The call of a request goes on. -/
  | goesOn (j : ℕ) (c : Call) (stamp : Stamp) (q q' : SendMessagePc) (hcaller : s.caller i = some j)
      (hj : s.wrapper.threads[j]? = some (.call c .send))
      (hi : s.client.threads[i]? = some (.sendMessage q)) (hserves : Serves cfg c stamp q')
      (hclient : client = ⟨s.client.shared, s.client.threads.set i (.sendMessage q')⟩) :
    Moved cfg s i client { s with client }
  /-- The call of a request comes to its end, and the request goes on. -/
  | replies (j : ℕ) (c : Call) (stamp : Stamp) (q : SendMessagePc) (tested shown : ConnectionState)
      (hcaller : s.caller i = some j) (hj : s.wrapper.threads[j]? = some (.call c .send))
      (hi : s.client.threads[i]? = some (.sendMessage q))
      (hclient : client = ⟨s.client.shared.record (sendEvent i (c.send cfg tested shown stamp)),
        s.client.threads.set i .done⟩)
      (wrapper : Wrapper) (hwrapper : s.wrapper.move j (resume j (c.send cfg tested shown stamp)) =
        some wrapper) :
    Moved cfg s i client { s with client, wrapper }

/-- A request that waits for its send goes on with every outcome. -/
lemma exists_resume {w : Wrapper} {c : Call} (hj : w.threads[j]? = some (.call c .send))
    (outcome : Except ClientException (List UInt8)) :
    ∃ wrapper, w.move j (resume j outcome) = some wrapper := by
  cases outcome with
  | error e => exact ⟨_, Pool.move_eq_some.mpr ⟨_, _, _, hj, rfl, rfl⟩⟩
  | ok binary => exact ⟨_, Pool.move_eq_some.mpr ⟨_, _, _, hj, rfl, rfl⟩⟩

/-- Every move of the client is one of these. -/
theorem moved {l : Gds.Label} {client : Client} (hs : Linked cfg s) (hl : l.thread = some i)
    (h : AsyncGDSClient.step cfg s.client l = some client) (text : String) :
    Moved cfg s i client ((newer s.client client).foldr (react text) { s with client }) := by
  obtain ⟨pc, sh', pc', hpc, rfl, hmove⟩ := client_move hs hl h
  rcases hmove with ⟨hcaller, hsend, hm⟩ | ⟨j, c, stamp, hcaller, hj, hcall⟩
  · obtain ⟨new, hlog, hlength, hnew⟩ := hm.events_eq hsend
    have hnewer : newer s.client ⟨sh', s.client.threads.set i pc'⟩ = new := newer_eq hlog
    rw [hnewer]
    refine .listens new pc pc' sh' hpc rfl hcaller (hm.isSendMessage hsend) hlog hlength
      (fun e he => (hnew e he).1) _ (listens_foldr text fun e he k hk => ?_)
    rw [(hnew e he).2 k hk]
    exact hcaller
  · -- the thread of the client is in `SendMessage`
    have hi : ∃ q, s.client.threads[i]? = some (.sendMessage q) := by
      rcases hs.link i j hcaller with ⟨-, pc, hpc, hne⟩ | ⟨_, _, q, -, hi, -⟩
      · cases hj.symm.trans hpc
        exact absurd rfl (hne c)
      · exact ⟨q, hi⟩
    obtain ⟨q, hi⟩ := hi
    rcases hcall with ⟨rfl, q', rfl, hserves⟩ | ⟨tested, shown, rfl, rfl⟩
    · have hnew : newer s.client ⟨s.client.shared, s.client.threads.set i (.sendMessage q')⟩ = [] :=
        newer_eq rfl
      rw [hnew]
      exact .goesOn j c stamp q q' hcaller hj hi hserves rfl
    · obtain ⟨wrapper, hwrapper⟩ := exists_resume hj (c.send cfg tested shown stamp)
      have hreact : ∀ client, react text (sendEvent i (c.send cfg tested shown stamp))
          { s with client } = { s with client, wrapper } := by
        intro client
        cases hsend : c.send cfg tested shown stamp with
        | error e =>
          rw [hsend] at hwrapper
          simp [react, sendEvent, reply, hcaller, hwrapper]
        | ok binary =>
          rw [hsend] at hwrapper
          simp [react, sendEvent, reply, hcaller, hwrapper]
      have hnew : newer s.client ⟨s.client.shared.record (sendEvent i
          (c.send cfg tested shown stamp)), s.client.threads.set i .done⟩ =
          [sendEvent i (c.send cfg tested shown stamp)] := newer_eq rfl
      rw [hnew, List.foldr_cons, List.foldr_nil, hreact]
      exact .replies j c stamp q tested shown hcaller hj hi rfl wrapper hwrapper

/-- A move of the client keeps a session linked. -/
lemma linked_moved {client : Client} (hs : Linked cfg s) (h : Moved cfg s i client s') :
    Linked cfg s' := by
  cases h with
  | listens new pc pc' sh' hpc hclient hcaller hsend hlog hlength hsent s' h =>
    subst hclient
    have hother : ∀ k j, s.caller k = some j → k ≠ i := by
      rintro k j hk rfl
      rw [hcaller] at hk
      cases hk
    refine ⟨fun k j hk => ?_, fun k k' j hk hk' => ?_, fun k q hq hq' => ?_⟩
    · rw [h.caller] at hk
      refine (hs.link k j hk).mono (fun q hq => ?_) fun _ hq => h.at hq
      rw [h.client]
      exact (List.getElem?_set_ne (hother k j hk).symm).trans hq
    · rw [h.caller] at hk hk'
      exact hs.distinct k k' j hk hk'
    · rw [h.client] at hq
      rw [h.caller]
      by_cases hki : k = i
      · subst hki
        cases (Pool.at_set hpc).symm.trans hq
        rw [hsend] at hq'
        cases hq'
      · exact hs.sends k q ((List.getElem?_set_ne (Ne.symm hki)).symm.trans hq) hq'
  | goesOn j c stamp q q' hcaller hj hi hserves hclient =>
    subst hclient
    refine ⟨fun k j' hk => ?_, hs.distinct, fun k q hq hq' => ?_⟩
    · by_cases hki : k = i
      · subst hki
        cases hcaller.symm.trans hk
        exact .inr ⟨c, stamp, q', hj, Pool.at_set hi, hserves⟩
      · exact (hs.link k j' hk).mono (fun q hq =>
          (List.getElem?_set_ne (Ne.symm hki)).trans hq) fun _ h => h
    · by_cases hki : k = i
      · subst hki
        simp [hcaller]
      · exact hs.sends k q ((List.getElem?_set_ne (Ne.symm hki)).symm.trans hq) hq'
  | replies j c stamp q tested shown hcaller hj hi hclient wrapper hwrapper =>
    subst hclient
    obtain ⟨pc, shared, pc', hpc, hresume, rfl⟩ := Pool.move_eq_some.mp hwrapper
    cases hj.symm.trans hpc
    -- the request has gone on
    have hne : ∀ c', pc' ≠ .call c' .send := by
      rintro c' rfl
      cases hsend : c.send cfg tested shown stamp <;> rw [hsend] at hresume <;> cases hresume
    refine ⟨fun k j' hk => ?_, hs.distinct, fun k q hq hq' => ?_⟩
    · by_cases hki : k = i
      · subst hki
        cases hcaller.symm.trans hk
        exact .inl ⟨Pool.at_set hi, pc', Pool.at_set hj, hne⟩
      · have hjj : j ≠ j' := fun heq => hki (hs.distinct k i j (heq ▸ hk) hcaller)
        exact (hs.link k j' hk).mono (fun q hq => (List.getElem?_set_ne (Ne.symm hki)).trans hq)
          fun q hq => (List.getElem?_set_ne hjj).trans hq
    · by_cases hki : k = i
      · subst hki
        simp [hcaller]
      · exact hs.sends k q ((List.getElem?_set_ne (Ne.symm hki)).symm.trans hq) hq'

/-- Every step keeps a session linked. -/
lemma linked_effect {l : Option Gds.Label} (hs : Linked cfg s) (h : Effect cfg s l s') :
    Linked cfg s' := by
  cases h with
  | calls c hc disposed disposing => exact linked_spawn hs hc _ _
  | flags => exact ⟨hs.link, hs.distinct, hs.sends⟩
  | wraps l hl wrapper h => exact linked_wraps hs hl h
  | sends j c stamp hj hfree => exact linked_sends hs hj hfree
  | raises e =>
    have he : e.start.isSendMessage = false := by cases e <;> rfl
    exact linked_spawn hs he _ _
  | moves l text i hl client h => exact linked_moved hs (moved hs hl h text)

/-- Every session is linked in every run. -/
theorem linked {ok : Guard Session Label} (h : (system cfg).Reachable ok s) : Linked cfg s := by
  refine h.invariant (I := Linked cfg) ?_ fun s l s' hs _ hstep =>
    linked_effect hs (step_cases hstep)
  constructor <;> simp [system, init, AsyncGDSClient.system]

end Session

end SyncGDSClient

end Gds
