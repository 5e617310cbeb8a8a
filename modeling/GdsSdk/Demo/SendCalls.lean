import GdsSdk.Demo.SyncGDSClient
import GdsSdk.Messages.RoundTrip
import GdsSdk.Websocket.Dispatch
import GdsSdk.Websocket.Sends

/-!
# Every call of a send method is atomic

A call of a send method looks at `State`, may look at it once more for the text of an exception,
and hands its message to the socket, while other threads go on in between.  `sendCalls_atomic` says
that it still has one outcome, the one that `SyncGDSClient.sendMessage` computes at once from its
arguments and from values that `State` had during the call; so what was handed over is what the
caller has passed.  `sent_dispatched` follows it to the client of a peer.
-/

namespace Gds

open MsgPack Transition AsyncGDSClient

/-! ## Calls and their outcomes -/

/-- A call of a send method: its thread, how many events there were before it, and what it was
given. -/
structure SendCall where
  thread : ℕ
  start : ℕ
  request : SendRequest
  stamp : Stamp

/-- The calls of send methods. -/
def sendCall (s : Client) : Label → Option SendCall
  | .call (.send request stamp) => some ⟨s.threads.length, s.shared.log.length, request, stamp⟩
  | _ => none

/-- No call or callback of the thread has ended with an event. -/
def NoOutcome (i : ℕ) (log : List Event) : Prop := ∀ e ∈ log, e.ended ≠ some i

namespace SendCall

/-- What a call passes to `SendMessage`. -/
def arguments (cfg : Config) (c : SendCall) : Option MessageHeader × Option MessageData :=
  c.request.arguments cfg.userName cfg.timeout c.stamp

/-- `State` had the value at some time after the start of the call. -/
def Met (c : SendCall) (value : ConnectionState) (log : List Event) : Prop :=
  ∃ newer older, log = newer ++ older ∧ c.start ≤ older.length ∧ stateAfter older = value

/-- The call has had one outcome: what `SendMessage` does at once with the arguments, with a value
that `State` had during the call, and with the one that it had at the end. -/
def Outcome (cfg : Config) (c : SendCall) (log : List Event) : Prop :=
  ∃ newer older tested,
    log = newer ++ SyncGDSClient.sendEvent c.thread (SyncGDSClient.sendMessage cfg tested
      (stateAfter older) (c.arguments cfg).1 (c.arguments cfg).2) :: older ∧
    c.Met tested older ∧ NoOutcome c.thread newer ∧ NoOutcome c.thread older

/-- What is known of a call at a program point of its thread. -/
def Knows (cfg : Config) (c : SendCall) (log : List Event) : Option Pc → Prop
  | some (.sendMessage (.testLoggedIn header data)) =>
    c.arguments cfg = (header, data) ∧ c.start ≤ log.length ∧ NoOutcome c.thread log
  | some (.sendMessage (.send header data)) =>
    c.arguments cfg = (header, data) ∧ c.Met .loggedIn log ∧ NoOutcome c.thread log
  | some (.sendMessage .readState) =>
    (∃ tested, tested ≠ .loggedIn ∧ c.Met tested log) ∧ NoOutcome c.thread log
  | some .done => c.Outcome cfg log
  | _ => False

end SendCall

section Knows

variable {cfg : Config} {c : SendCall} {i : ℕ} {sh sh' : Shared} {log new : List Event}
  {pc pc' : Pc} {q : Option Pc}

lemma NoOutcome.append (h : NoOutcome i log) (hnew : NoOutcome i new) :
    NoOutcome i (new ++ log) := by
  intro e he
  rcases List.mem_append.mp he with he | he
  · exact hnew e he
  · exact h e he

/-- A value that `State` had at the end of a history was met. -/
lemma SendCall.met_now {value : ConnectionState} (hstart : c.start ≤ log.length)
    (hvalue : stateAfter log = value) : c.Met value log := ⟨[], log, rfl, hstart, hvalue⟩

/-- What was met once was met for good. -/
lemma SendCall.Met.append {value : ConnectionState} (h : c.Met value log) (new : List Event) :
    c.Met value (new ++ log) := by
  obtain ⟨newer, older, rfl, hstart, hvalue⟩ := h
  exact ⟨new ++ newer, older, (List.append_assoc _ _ _).symm, hstart, hvalue⟩

/-- What other threads do leaves what is known of a call. -/
lemma SendCall.Knows.append (h : c.Knows cfg log q) (hnew : NoOutcome c.thread new) :
    c.Knows cfg (new ++ log) q := by
  unfold Knows at h ⊢
  split at h
  · obtain ⟨harguments, hstart, hnone⟩ := h
    refine ⟨harguments, ?_, hnone.append hnew⟩
    rw [List.length_append]
    omega
  · obtain ⟨harguments, hmet, hnone⟩ := h
    exact ⟨harguments, hmet.append new, hnone.append hnew⟩
  · obtain ⟨⟨tested, htested, hmet⟩, hnone⟩ := h
    exact ⟨⟨tested, htested, hmet.append new⟩, hnone.append hnew⟩
  · obtain ⟨newer, older, tested, rfl, hmet, hnewer, holder⟩ := h
    exact ⟨new ++ newer, older, tested, (List.append_assoc _ _ _).symm, hmet,
      hnewer.append hnew, holder⟩
  · exact h

/-- The event with which the thread of a call has ended is what `SendMessage` does at once, with a
value that `State` had during the call. -/
lemma SendCall.Outcome.event_eq (h : c.Outcome cfg log) {e : Event} (he : e ∈ log)
    (hended : e.ended = some c.thread) : ∃ newer older tested shown,
      log = newer ++ e :: older ∧ c.Met tested older ∧
      e = SyncGDSClient.sendEvent c.thread (SyncGDSClient.sendMessage cfg tested shown
        (c.arguments cfg).1 (c.arguments cfg).2) := by
  obtain ⟨newer, older, tested, rfl, hmet, hnewer, holder⟩ := h
  rcases List.mem_append.mp he with he | he
  · exact absurd hended (hnewer e he)
  · rcases List.mem_cons.mp he with rfl | he
    · exact ⟨newer, older, tested, _, rfl, hmet, rfl⟩
    · exact absurd hended (holder e he)

/-- A thread of a call has a program point. -/
lemma SendCall.Knows.exists_pc (h : c.Knows cfg log q) : ∃ pc, q = some pc := by
  cases q with
  | none => exact h.elim
  | some pc => exact ⟨pc, rfl⟩

/-- The call ends with what `SendMessage` does at once. -/
lemma SendCall.outcome_now {tested : ConnectionState} (hmet : c.Met tested log)
    (hnone : NoOutcome c.thread log) :
    c.Outcome cfg (SyncGDSClient.sendEvent c.thread (SyncGDSClient.sendMessage cfg tested
      (stateAfter log) (c.arguments cfg).1 (c.arguments cfg).2) :: log) :=
  ⟨[], log, tested, rfl, hmet, fun _ he => absurd he List.not_mem_nil, hnone⟩

/-- A step of its own thread keeps what is known of a call. -/
lemma SendCall.Knows.next (h : c.Knows cfg sh.log (some pc)) (hstate : stateAfter sh.log = sh.state)
    (hnext : next cfg c.thread sh pc = some (sh', pc')) : c.Knows cfg sh'.log (some pc') := by
  cases pc with
  | sendMessage pc =>
    have hnext' : sendMessage cfg c.thread sh pc = some (sh', pc') := hnext
    cases pc with
    | testLoggedIn header data =>
      obtain ⟨harguments, hstart, hnone⟩ := h
      obtain ⟨hallowed, hforbidden, -, -⟩ :=
        SyncGDSClient.sendMessage_refines cfg c.thread sh header data
      by_cases hloggedIn : sh.state = .loggedIn
      · rw [hallowed hloggedIn] at hnext'
        cases hnext'
        exact ⟨harguments, met_now hstart (hstate.trans hloggedIn), hnone⟩
      · rw [hforbidden hloggedIn] at hnext'
        cases hnext'
        exact ⟨⟨sh.state, hloggedIn, met_now hstart hstate⟩, hnone⟩
    | readState =>
      obtain ⟨⟨tested, htested, hmet⟩, hnone⟩ := h
      obtain ⟨-, -, hrejected, -⟩ := SyncGDSClient.sendMessage_refines cfg c.thread sh
        (c.arguments cfg).1 (c.arguments cfg).2
      rw [hrejected tested htested] at hnext'
      cases hnext'
      rw [← hstate]
      exact outcome_now hmet hnone
    | send header data =>
      obtain ⟨harguments, hmet, hnone⟩ := h
      obtain ⟨-, -, -, hsends⟩ :=
        SyncGDSClient.sendMessage_refines cfg c.thread sh header data
      rw [hsends (stateAfter sh.log)] at hnext'
      cases hnext'
      have houtcome := @outcome_now cfg _ _ _ hmet hnone
      rwa [harguments] at houtcome
  | done => cases hnext
  | _ => exact h.elim

end Knows

/-! ## The calls of a run -/

/-- The calls of a run: what is known of each of them, and that nothing else sends. -/
structure SendCalls (cfg : Config) (s : Client) (calls : List SendCall) : Prop where
  knows : ∀ c ∈ calls, c.Knows cfg s.shared.log s.threads[c.thread]?
  called : ∀ i pc, s.threads[i]? = some (.sendMessage pc) → ∃ c ∈ calls, c.thread = i
  sent : ∀ i binary, .sent i binary ∈ s.shared.log → ∃ c ∈ calls, c.thread = i

/-- Only a send hands a message to the socket. -/
lemma Move.sent {cfg : Config} {i : ℕ} {sh sh' : Shared} {pc pc' : Pc}
    (h : Move cfg i sh pc sh' pc') {j : ℕ} {binary : List UInt8}
    (hsent : .sent j binary ∈ sh'.log) :
    .sent j binary ∈ sh.log ∨ j = i ∧ ∃ q, pc = .sendMessage q := by
  cases h with
  | sends header data =>
    rcases List.mem_cons.mp hsent with heq | hmem
    · cases heq
      exact .inr ⟨rfl, _, rfl⟩
    · exact .inl hmem
  | _ => exact .inl (by simpa using hsent)

/-- A thread that is sending was sending before. -/
lemma Move.sendMessage {cfg : Config} {i : ℕ} {sh sh' : Shared} {pc pc' : Pc}
    (h : Move cfg i sh pc sh' pc') {q : SendMessagePc} (hpc' : pc' = .sendMessage q) :
    ∃ q, pc = .sendMessage q := by
  cases h with
  | sendAllowed | sendForbidden | sendRejected | sendThrows | sends => exact ⟨_, rfl⟩
  | closeReturns caller => cases caller <;> cases hpc'
  | _ => cases hpc'

namespace AsyncGDSClient

variable {cfg : Config} {ok : Guard Client Label} {s s' : Client} {l : Label}
  {calls : List SendCall}

/-- A thread that starts leaves the calls that there are. -/
lemma SendCalls.spawn (h : SendCalls cfg s calls) {shared : Shared} (pc : Pc)
    (hlog : shared.log = s.shared.log) (hpc : ∀ q, pc ≠ .sendMessage q) :
    SendCalls cfg (s.spawn shared pc) calls := by
  refine ⟨fun c hc => ?_, fun i q hq => ?_, fun i binary hsent => ?_⟩
  · have hknows := h.knows c hc
    obtain ⟨pc', hpc'⟩ := hknows.exists_pc
    rw [hpc'] at hknows
    rw [Pool.at_spawn hpc']
    change c.Knows cfg shared.log _
    rwa [hlog]
  · refine h.called i q ?_
    rcases Nat.lt_trichotomy i s.threads.length with hi | rfl | hi
    · rwa [Pool.spawn, List.getElem?_append_left hi] at hq
    · rw [Pool.spawn, List.getElem?_concat_length] at hq
      exact absurd (Option.some.inj hq) (hpc q)
    · rw [Pool.spawn, List.getElem?_eq_none (by
        rw [List.length_append]
        exact hi)] at hq
      cases hq
  · refine h.sent i binary ?_
    change _ ∈ shared.log at hsent
    rwa [hlog] at hsent

/-- A call of a send method is one more of them. -/
lemma SendCalls.call (h : SendCalls cfg s calls) (hends : SendHistory cfg s) (request : SendRequest)
    (stamp : Stamp) :
    SendCalls cfg (s.spawn s.shared ((Call.send request stamp).start cfg))
      (⟨s.threads.length, s.shared.log.length, request, stamp⟩ :: calls) := by
  have hnone : NoOutcome s.threads.length s.shared.log := by
    intro e he hended
    have hdone := hends.ended e he _ hended
    rw [List.getElem?_eq_none (Nat.le_refl _)] at hdone
    cases hdone
  refine ⟨fun c hc => ?_, fun i q hq => ?_, fun i binary hsent => ?_⟩
  · rcases List.mem_cons.mp hc with rfl | hc
    · have hat : (s.threads ++ [(Call.send request stamp).start cfg])[s.threads.length]? =
          some ((Call.send request stamp).start cfg) := List.getElem?_concat_length
      change SendCall.Knows cfg _ _ (s.threads ++ [_])[s.threads.length]?
      rw [hat]
      exact ⟨rfl, Nat.le_refl _, hnone⟩
    · have hknows := h.knows c hc
      obtain ⟨pc', hpc'⟩ := hknows.exists_pc
      rw [hpc'] at hknows
      rw [Pool.at_spawn hpc']
      exact hknows
  · rcases Nat.lt_trichotomy i s.threads.length with hi | rfl | hi
    · rw [Pool.spawn, List.getElem?_append_left hi] at hq
      obtain ⟨c, hc, rfl⟩ := h.called i q hq
      exact ⟨c, List.mem_cons_of_mem _ hc, rfl⟩
    · exact ⟨_, List.mem_cons_self, rfl⟩
    · rw [Pool.spawn, List.getElem?_eq_none (by
        rw [List.length_append]
        exact hi)] at hq
      cases hq
  · obtain ⟨c, hc, rfl⟩ := h.sent i binary hsent
    exact ⟨c, List.mem_cons_of_mem _ hc, rfl⟩

/-- A move of a thread keeps the calls, if it does what the program says where the thread is
sending. -/
lemma SendCalls.move (h : SendCalls cfg s calls) (hstate : stateAfter s.shared.log = s.shared.state)
    {i : ℕ} {pc pc' : Pc} {sh' : Shared} (hpc : s.threads[i]? = some pc)
    (hm : Move cfg i s.shared pc sh' pc')
    (hnext : (∃ q, pc = .sendMessage q) → next cfg i s.shared pc = some (sh', pc')) :
    SendCalls cfg ⟨sh', s.threads.set i pc'⟩ calls := by
  refine ⟨fun c hc => ?_, fun j q hq => ?_, fun j binary hsent => ?_⟩
  · have hknows := h.knows c hc
    by_cases hci : c.thread = i
    · -- the thread of the call itself
      subst hci
      rw [hpc] at hknows
      change c.Knows cfg sh'.log (s.threads.set c.thread pc')[c.thread]?
      rw [Pool.at_set hpc]
      refine hknows.next hstate (hnext ?_)
      cases pc with
      | sendMessage q => exact ⟨q, rfl⟩
      | done => cases hm
      | _ => exact hknows.elim
    · change c.Knows cfg sh'.log (s.threads.set i pc')[c.thread]?
      rw [List.getElem?_set_ne (Ne.symm hci)]
      rcases hm.ended with ⟨new, hlog, hnew⟩ | ⟨e, he, hlog, -⟩
      · rw [hlog]
        refine hknows.append fun e he => ?_
        rw [hnew e he]
        simp
      · rw [hlog, ← List.singleton_append]
        refine hknows.append fun e' he' => ?_
        rw [List.mem_singleton.mp he', he]
        exact fun heq => hci (Option.some.inj heq).symm
  · by_cases hji : j = i
    · subst hji
      change (s.threads.set j pc')[j]? = _ at hq
      rw [Pool.at_set hpc] at hq
      obtain ⟨q', rfl⟩ := hm.sendMessage (Option.some.inj hq)
      exact h.called j q' hpc
    · change (s.threads.set i pc')[j]? = _ at hq
      rw [List.getElem?_set_ne (Ne.symm hji)] at hq
      exact h.called j q hq
  · rcases hm.sent hsent with hold | ⟨rfl, q, rfl⟩
    · exact h.sent j binary hold
    · exact h.called j q hpc

/-- A step of a client keeps the calls. -/
lemma sendCalls_step (h : SendCalls cfg s calls) (hends : SendHistory cfg s)
    (hstep : step cfg s l = some s') : SendCalls cfg s' ((sendCall s l).toList ++ calls) := by
  cases l with
  | call c =>
    cases hstep
    cases c with
    | send request stamp => exact SendCalls.call h hends request stamp
    | connect | close | dispose => exact SendCalls.spawn h _ rfl fun q hq => by cases hq
  | raise e =>
    simp only [step] at hstep
    split_ifs at hstep
    cases hstep
    refine SendCalls.spawn h _ rfl fun q hq => ?_
    cases e <;> cases hq
  | step i =>
    obtain ⟨pc, sh', pc', hpc, hnext, rfl⟩ := Pool.move_eq_some.mp hstep
    exact SendCalls.move h hends.state hpc (.of_next hnext) fun _ => hnext
  | expire i =>
    obtain ⟨pc, sh', pc', hpc, hnext, rfl⟩ := Pool.move_eq_some.mp hstep
    refine SendCalls.move h hends.state hpc (.of_expire hnext) ?_
    rintro ⟨q, rfl⟩
    cases hnext
  | abort i =>
    obtain ⟨pc, sh', pc', hpc, hnext, rfl⟩ := Pool.move_eq_some.mp hstep
    refine SendCalls.move h hends.state hpc (.of_abort hnext) ?_
    rintro ⟨q, rfl⟩
    cases hnext

/-- The calls of every run. -/
theorem sendCalls {p : Client × List SendCall}
    (h : ((system cfg).observe sendCall).Reachable (System.observed ok) p) :
    SendCalls cfg p.1 p.2 := by
  refine System.observe_invariant (R := SendCalls cfg) ?_ ?_ h
  · constructor <;> simp [system, Shared.init]
  · intro s seen l s' hreach hs _ hstep
    exact sendCalls_step hs (sendHistory hreach) hstep

/-- A call without an outcome is not at its end, and the other way round. -/
lemma SendCalls.noOutcome (h : SendCalls cfg s calls) {c : SendCall} (hc : c ∈ calls)
    (hdone : s.threads[c.thread]? ≠ some .done) : NoOutcome c.thread s.shared.log := by
  have hknows := h.knows c hc
  unfold SendCall.Knows at hknows
  split at hknows
  · exact hknows.2.2
  · exact hknows.2.2
  · exact hknows.2
  · rename_i heq
    exact absurd heq hdone
  · exact hknows.elim

/-- A call that has ended with an event has had its outcome. -/
lemma SendCalls.outcome_of_ended (h : SendCalls cfg s calls) {c : SendCall} (hc : c ∈ calls)
    {e : Event} (he : e ∈ s.shared.log) (hended : e.ended = some c.thread) :
    c.Outcome cfg s.shared.log := by
  by_cases hdone : s.threads[c.thread]? = some .done
  · have hknows := h.knows c hc
    rwa [hdone] at hknows
  · exact absurd hended (SendCalls.noOutcome h hc hdone e he)

/-- In every run, whatever other threads do in between: a call of a send method that has ended has
had exactly one outcome, which is what `SendMessage` does at once with the arguments of the call,
for a value that `State` had during the call; before that it has had none; and whatever is handed
to the socket besides the login message comes from such a call. -/
theorem sendCalls_atomic {p : Client × List SendCall}
    (h : ((system cfg).observe sendCall).Reachable (System.observed Unrestricted) p) :
    (∀ c ∈ p.2, p.1.threads[c.thread]? = some .done → c.Outcome cfg p.1.shared.log) ∧
    (∀ c ∈ p.2, p.1.threads[c.thread]? ≠ some .done → NoOutcome c.thread p.1.shared.log) ∧
    ∀ i binary, .sent i binary ∈ p.1.shared.log → ∃ c ∈ p.2, c.thread = i := by
  have hcalls := sendCalls h
  refine ⟨fun c hc hdone => ?_, fun c hc => SendCalls.noOutcome hcalls hc, hcalls.sent⟩
  have hknows := hcalls.knows c hc
  rwa [hdone] at hknows

end AsyncGDSClient

open Scenario in
/-- After a login a request is sent. -/
lemma AsyncGDSClient.exists_sent : ∃ p : Client × List SendCall,
    ((system cfg).observe sendCall).Reachable (System.observed Unrestricted) p ∧
    ∃ i binary, .sent i binary ∈ p.1.shared.log := by
  have hrun : ∃ p : Client × List SendCall,
      ((system cfg).observe sendCall).Reachable (System.observed Unrestricted) p ∧
      (p.1.shared.log.any fun e => match e with
        | .sent _ _ => true
        | _ => false) = true :=
    System.exists_reachable (login ++ [.call (.send (.attachmentRequest4 (some "SELECT")
      ⟨none, none⟩) stamp)] ++ steps 2 3) (by decide +kernel)
  obtain ⟨p, hreach, hany⟩ := hrun
  obtain ⟨e, he, hsent⟩ := List.any_eq_true.mp hany
  cases e with
  | sent i binary => exact ⟨p, hreach, i, binary, he⟩
  | _ => cases hsent

open Scenario in
/-- A request that was sent after a login comes from its call. -/
theorem AsyncGDSClient.sendCalls_atomic_request : ∃ p : Client × List SendCall,
    ((system cfg).observe sendCall).Reachable (System.observed Unrestricted) p ∧
    ∃ i binary, .sent i binary ∈ p.1.shared.log ∧ ∃ c ∈ p.2, c.thread = i := by
  obtain ⟨p, hreach, i, binary, hsent⟩ := exists_sent
  exact ⟨p, hreach, i, binary, hsent, (sendCalls_atomic hreach).2.2 i binary hsent⟩

/-! ## What reaches a peer -/

/-- The data part that the client of a peer has for its own login or for its listener: nothing of
the kinds that only the service reads, or of a login request, and of an acknowledgement of a login
what can be received. -/
def MessageData.atPeer : MessageData → Option MessageData
  | connection _ | event _ | queryRequest _ | nextQueryPageRequest _ => none
  | connectionAck d => some (.connectionAck d.received)
  | data => some data

/-- A call that hands over a binary has found the client logged in, and has encoded a header and a
data part of the type that it announces. -/
lemma SyncGDSClient.sendMessage_handed {cfg : Config} {tested shown : ConnectionState}
    {header : Option MessageHeader} {data : Option MessageData} {binary : List UInt8}
    (h : sendMessage cfg tested shown header data = .ok binary) :
    tested = .loggedIn ∧ ∃ header' data', header = some header' ∧ data = some data' ∧
      data'.getDataType = header'.dataType ∧
      MessageManager.getBinaryFromMessage cfg.wire
        (MessageManager.getMessage header' (some data')) = .ok binary := by
  unfold sendMessage at h
  split_ifs at h with htested
  refine ⟨not_not.mp htested, ?_⟩
  rcases header with _ | header <;> rcases data with _ | data
  · cases h
  · cases h
  · cases h
  · simp only at h
    split_ifs at h with htype
    split at h
    · cases h
    · rename_i hbinary
      cases h
      exact ⟨header, data, rfl, rfl, (not_not.mp htype).symm, hbinary⟩

/-- What a call has handed to the socket is the encoding of what it has passed on. -/
lemma SendCall.Outcome.encoded {cfg : Config} {c : SendCall} {log : List Event}
    (h : c.Outcome cfg log) {binary : List UInt8} (hsent : .sent c.thread binary ∈ log) :
    ∃ header data, c.arguments cfg = (some header, some data) ∧
      data.getDataType = header.dataType ∧ MessageManager.getBinaryFromMessage cfg.wire
        (MessageManager.getMessage header (some data)) = .ok binary := by
  obtain ⟨-, -, tested, shown, -, -, hevent⟩ := h.event_eq hsent rfl
  cases hresult : SyncGDSClient.sendMessage cfg tested shown (c.arguments cfg).1
      (c.arguments cfg).2 with
  | error e =>
    rw [hresult] at hevent
    cases hevent
  | ok binary' =>
    rw [hresult] at hevent
    cases hevent
    obtain ⟨-, header, data, hheader, hdata, hencoded⟩ := SyncGDSClient.sendMessage_handed hresult
    exact ⟨header, data, Prod.ext hheader hdata, hencoded⟩

/-- What a call has thrown is what `SendMessage` throws, for a value that `State` had during the
call. -/
lemma SendCall.Outcome.thrown {cfg : Config} {c : SendCall} {log : List Event}
    (h : c.Outcome cfg log) {e : ClientException} (hthrew : .threw c.thread e ∈ log) :
    ∃ newer older tested shown, log = newer ++ .threw c.thread e :: older ∧ c.Met tested older ∧
      SyncGDSClient.sendMessage cfg tested shown (c.arguments cfg).1 (c.arguments cfg).2 =
        .error e := by
  obtain ⟨newer, older, tested, shown, hlog, hmet, hevent⟩ := h.event_eq hthrew rfl
  refine ⟨newer, older, tested, shown, hlog, hmet, ?_⟩
  cases hresult : SyncGDSClient.sendMessage cfg tested shown (c.arguments cfg).1
      (c.arguments cfg).2 with
  | error e' =>
    rw [hresult] at hevent
    cases hevent
    rfl
  | ok binary =>
    rw [hresult] at hevent
    cases hevent

/-- A message of a type that is read by the service alone is not decoded. -/
lemma MessageManager.getMessageFromBinary_of_throws {F : WireFormat} {header : MessageHeader}
    {ws : List WriteOp} {b : List UInt8} {e : ReadError} (hc : Covered (written
      (.arrayHeader 11 :: (MessageHeaderFormatter.serialize header ++ ws))))
    (hb : F.encodeAll (.arrayHeader 11 :: (MessageHeaderFormatter.serialize header ++ ws)) = some b)
    (h : MessageFormatter.deserializeData header.dataType = throw e) :
    ∃ e, getMessageFromBinary F b = .error e := by
  cases hread : getMessageFromBinary F b with
  | error e => exact ⟨e, rfl⟩
  | ok m =>
    obtain ⟨rest, hrun⟩ := (getMessageFromBinary_eq_ok F b).mp hread
    obtain ⟨n, es, hes, hdata⟩ := MessageFormatter.run_deserialize_eq_ok.mp hrun
    rw [F.elements_encodeAll hc hb, written_cons, written_append] at hes
    -- the header is the one that was written
    have hheader := MessageHeaderFormatter.reads_serialize header (written ws)
    rw [(List.cons.inj hes).2, MessageHeaderFormatter.reads_serialize m.header es] at hheader
    cases hheader
    rw [h] at hdata
    exact (Reader.run_throw_eq_ok.mp hdata).elim

namespace OnMessageReceived

/-- A message of a type that is passed on as it is is dispatched. -/
lemma dispatch_of_isDelivered {cfg : Config} {header : MessageHeader} {data : MessageData}
    {binary : List UInt8} (h : MessageManager.getMessageFromBinary cfg.wire binary =
      .ok ⟨header, some data⟩) (hdelivered : isDelivered data = true) :
    dispatch cfg binary = some (header, data) := by
  unfold dispatch
  rw [h]
  cases data with
  | connectionAck => cases hdelivered
  | _ => exact if_pos hdelivered

/-- What was encoded with a header that announces it is dispatched with the same header. -/
lemma dispatch_of_encoded {cfg : Config} {header : MessageHeader} {data : MessageData}
    {binary : List UInt8} (htype : data.getDataType = header.dataType)
    (hb : MessageManager.getBinaryFromMessage cfg.wire
      (MessageManager.getMessage header (some data)) = .ok binary) :
    dispatch cfg binary = data.atPeer.map (Prod.mk header) := by
  obtain ⟨ws, hws, henc⟩ := MessageManager.getBinaryFromMessage_eq_ok.mp hb
  have hc := MessageFormatter.covered_serialize hws
  simp only [MessageFormatter.serialize, MessageManager.getMessage, bind_eq_ok] at hws
  obtain ⟨ws, hdata, ⟨⟩⟩ := hws
  have hdecode : ∀ data', Reads (MessageFormatter.deserializeData data.getDataType) (written ws)
      (some data') →
      MessageManager.getMessageFromBinary cfg.wire binary = .ok ⟨header, some data'⟩ := by
    intro data' hreads
    rw [htype] at hreads
    exact MessageManager.getMessageFromBinary_of_reads hc henc
      (MessageFormatter.reads_of_data hreads)
  -- a kind that the client can write and read
  have htwoWay : data.TwoWay → ∃ data', data.SameAs data' ∧
      MessageManager.getMessageFromBinary cfg.wire binary = .ok ⟨header, some data'⟩ := by
    intro htwo
    obtain ⟨data', hsame, hreads⟩ := MessageFormatter.reads_serializeData htwo hdata
    exact ⟨data', hsame, hdecode data' hreads⟩
  -- a kind that is read by the service alone
  have hignored : (∃ e, MessageFormatter.deserializeData data.getDataType = throw e) →
      dispatch cfg binary = none := by
    rintro ⟨e, he⟩
    rw [htype] at he
    obtain ⟨e', herror⟩ := MessageManager.getMessageFromBinary_of_throws hc henc he
    unfold dispatch
    rw [herror]
  cases data with
  | connection d =>
    obtain ⟨_, ⟨⟩, hmessage⟩ := htwoWay (.connection d)
    unfold dispatch
    rw [hmessage]
    rfl
  | connectionAck d =>
    have hreads := (ConnectionAckData.formatter_roundTrips (some d) ws hdata).map
      (Option.map MessageData.connectionAck)
    unfold dispatch
    rw [hdecode _ hreads]
    rfl
  | event | queryRequest | nextQueryPageRequest => exact hignored ⟨_, rfl⟩
  | eventAck | queryRequestAck => cases hdata
  | attachmentRequest d =>
    obtain ⟨_, ⟨⟩, hmessage⟩ := htwoWay (.attachmentRequest d)
    exact dispatch_of_isDelivered hmessage rfl
  | attachmentRequestAck d =>
    obtain ⟨_, ⟨⟩, hmessage⟩ := htwoWay (.attachmentRequestAck d)
    exact dispatch_of_isDelivered hmessage rfl
  | attachmentResponse d =>
    obtain ⟨_, ⟨⟩, hmessage⟩ := htwoWay (.attachmentResponse d)
    exact dispatch_of_isDelivered hmessage rfl
  | attachmentResponseAck d =>
    obtain ⟨_, ⟨⟩, hmessage⟩ := htwoWay (.attachmentResponseAck d)
    exact dispatch_of_isDelivered hmessage rfl
  | eventDocument d =>
    obtain ⟨_, ⟨⟩, hmessage⟩ := htwoWay (.eventDocument d)
    exact dispatch_of_isDelivered hmessage rfl
  | eventDocumentAck d =>
    obtain ⟨_, ⟨⟩, hmessage⟩ := htwoWay (.eventDocumentAck d)
    exact dispatch_of_isDelivered hmessage rfl

end OnMessageReceived

namespace AsyncGDSClient

variable {cfg cfg' : Config}

/-- In every run: whatever the client hands to its socket besides the login message comes from a
call of a send method, with the header and the data part that the call passed on, and a client of
the same byte format that receives it dispatches the same header and the same data part.  An
acknowledgement of a login arrives as the answer to the login of that client, up to what is not
written, and what is not for a client is dropped. -/
theorem sent_dispatched {p : Client × List SendCall} (hwire : cfg'.wire = cfg.wire)
    (h : ((system cfg).observe sendCall).Reachable (System.observed Unrestricted) p) :
    ∀ i binary, .sent i binary ∈ p.1.shared.log → ∃ c ∈ p.2, c.thread = i ∧
      ∃ header data, c.arguments cfg = (some header, some data) ∧
        OnMessageReceived.dispatch cfg' binary = data.atPeer.map (Prod.mk header) := by
  intro i binary hsent
  have hcalls := sendCalls h
  obtain ⟨c, hc, rfl⟩ := hcalls.sent i binary hsent
  obtain ⟨header, data, harguments, htype, hbinary⟩ :=
    (SendCalls.outcome_of_ended hcalls hc hsent rfl).encoded hsent
  rw [← hwire] at hbinary
  exact ⟨c, hc, rfl, header, data, harguments, OnMessageReceived.dispatch_of_encoded htype hbinary⟩

/-- A request for an attachment that was sent after a login. -/
theorem sent_dispatched_request : ∃ p : Client × List SendCall,
    ((system Scenario.cfg).observe sendCall).Reachable (System.observed Unrestricted) p ∧
    ∃ i binary, .sent i binary ∈ p.1.shared.log ∧ ∃ c ∈ p.2, c.thread = i ∧
      ∃ header data, c.arguments Scenario.cfg = (some header, some data) ∧
        OnMessageReceived.dispatch Scenario.cfg binary = data.atPeer.map (Prod.mk header) := by
  obtain ⟨p, hreach, i, binary, hsent⟩ := exists_sent
  obtain ⟨c, hc, hthread, header, data, harguments, hdispatch⟩ :=
    @sent_dispatched _ Scenario.cfg _ rfl hreach i binary hsent
  exact ⟨p, hreach, i, binary, hsent, c, hc, hthread, header, data, harguments, hdispatch⟩

end AsyncGDSClient

end Gds
