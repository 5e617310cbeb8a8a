import GdsSdk.Demo.ListenerImpl

/-!
# The callbacks of a program

The callbacks of a program are followed over its runs.  They are those of the methods that the
client has called (`callbacks_eq`); each of them has made the calls that it should have made at its
point, the query after the insertion was handed to the socket (`Made`); and no two of them have made
the same call (`linked`).
-/

namespace Gds

open MsgPack Transition ListenerImpl

/-- The first call has handed its message to the socket before the second call was made. -/
def SendCall.SentBefore (c c' : SendCall) (log : List Event) : Prop :=
  ∃ newer older binary, log = newer ++ .sent c.thread binary :: older ∧ older.length < c'.start

/-- A call that has had its outcome has handed its message to the socket, or has thrown. -/
lemma SendCall.Outcome.sent_or_threw {cfg : Config} {c : SendCall} {log : List Event}
    (h : c.Outcome cfg log) :
    (∃ binary, .sent c.thread binary ∈ log) ∨ ∃ e, .threw c.thread e ∈ log := by
  obtain ⟨newer, older, tested, rfl, -⟩ := h
  cases SyncGDSClient.sendMessage cfg tested (stateAfter older) (c.arguments cfg).1
      (c.arguments cfg).2 with
  | ok binary => exact .inl ⟨binary, List.mem_append_right _ List.mem_cons_self⟩
  | error e => exact .inr ⟨e, List.mem_append_right _ List.mem_cons_self⟩

namespace ListenerImpl

/-! ## What a callback has done -/

/-- The listener can build the sample event. -/
def Builds (listener : ListenerImpl) (insertSql : String)
    (binaryContents : Dictionary String (Option (List UInt8))) : Prop :=
  ∃ file eventTime frontTime rearTime, sampleEvent listener.idGenerator listener.sourceId file
    eventTime frontTime rearTime = .ok (insertSql, binaryContents)

/-- The call inserts the sample event. -/
def Inserts (listener : ListenerImpl) (c : SendCall) : Prop :=
  ∃ newGuid insertSql binaryContents, listener.Builds insertSql binaryContents ∧
    c.request = insertion newGuid insertSql binaryContents

/-- The call is the sample query. -/
def Queries (c : SendCall) : Prop := ∃ newGuid, c.request = sampleQuery newGuid

/-- What a callback has done when it is at a point. -/
inductive Made (listener : ListenerImpl) (log : List Event) : Pc → Prop
  | testClient (callback : Callback) : Made listener log (.testClient callback)
  | answer (header : MessageHeader) : Made listener log (.answer header)
  | answering (header : MessageHeader) (c : SendCall) (h : c.request = answer header) :
    Made listener log (.answering header c)
  | answered (header : MessageHeader) (c : SendCall) (h : c.request = answer header) :
    Made listener log (.done (.onEventDocument8 header) [c])
  | build : Made listener log .build
  /-- The sample event could not be built. -/
  | failed : Made listener log (.done .onConnectionSuccess [])
  | insert (insertSql : String) (binaryContents : Dictionary String (Option (List UInt8)))
      (h : listener.Builds insertSql binaryContents) :
    Made listener log (.insert insertSql binaryContents)
  | inserting (c : SendCall) (h : listener.Inserts c) : Made listener log (.inserting c)
  /-- The insertion has thrown. -/
  | rejected (c : SendCall) (h : listener.Inserts c) (hthrew : ∃ e, .threw c.thread e ∈ log) :
    Made listener log (.done .onConnectionSuccess [c])
  | query (c : SendCall) (h : listener.Inserts c) (hsent : ∃ binary, .sent c.thread binary ∈ log) :
    Made listener log (.query c)
  | querying (c c' : SendCall) (h : listener.Inserts c) (h' : Queries c')
      (hbefore : c.SentBefore c' log) : Made listener log (.querying c c')
  | queried (c c' : SendCall) (h : listener.Inserts c) (h' : Queries c')
      (hbefore : c.SentBefore c' log) : Made listener log (.done .onConnectionSuccess [c', c])

variable {listener : ListenerImpl} {log : List Event} {pc : Pc}

/-- What a callback has done it has done for good. -/
lemma Made.append (h : Made listener log pc) (new : List Event) :
    Made listener (new ++ log) pc := by
  have hbefore : ∀ {c c' : SendCall}, c.SentBefore c' log → c.SentBefore c' (new ++ log) := by
    rintro c c' ⟨newer, older, binary, rfl, hlt⟩
    exact ⟨new ++ newer, older, binary, (List.append_assoc _ _ _).symm, hlt⟩
  cases h with
  | testClient callback => exact .testClient callback
  | answer header => exact .answer header
  | answering header c h => exact .answering header c h
  | answered header c h => exact .answered header c h
  | build => exact .build
  | failed => exact .failed
  | insert insertSql binaryContents h => exact .insert insertSql binaryContents h
  | inserting c h => exact .inserting c h
  | rejected c h hthrew =>
    exact .rejected c h (hthrew.imp fun _ he => List.mem_append_right _ he)
  | query c h hsent => exact .query c h (hsent.imp fun _ hb => List.mem_append_right _ hb)
  | querying c c' h h' hb => exact .querying c c' h h' (hbefore hb)
  | queried c c' h h' hb => exact .queried c c' h h' (hbefore hb)

/-- The calls of a callback that have come to their end. -/
def Pc.ended : Pc → List SendCall
  | query insertion | querying insertion _ => [insertion]
  | done _ calls => calls
  | _ => []

/-! ## The points of a callback -/

/-- A callback that starts runs its method and has made no call. -/
lemma start_spec (listener : ListenerImpl) (log : List Event) (callback : Callback) :
    (start callback).callback = callback ∧ (start callback).calls = [] ∧
      (start callback).ended = [] ∧ Made listener log (start callback) := by
  cases callback with
  | onConnectionSuccess => exact ⟨rfl, rfl, rfl, .build⟩
  | onEventDocument8 header => exact ⟨rfl, rfl, rfl, .answer header⟩

/-- A callback that has tried to build the sample event has made no call. -/
lemma built_spec (listener : ListenerImpl) (log : List Event) (file : Option (List UInt8))
    (eventTime frontTime rearTime : DateTime) :
    let pc := listener.built file eventTime frontTime rearTime
    pc.callback = .onConnectionSuccess ∧ pc.calls = [] ∧ pc.ended = [] ∧ Made listener log pc := by
  simp only [built]
  split
  · rename_i insertSql binaryContents h
    exact ⟨rfl, rfl, rfl, .insert _ _ ⟨file, eventTime, frontTime, rearTime, h⟩⟩
  · exact ⟨rfl, rfl, rfl, .failed⟩

/-- A callback that calls the client makes a call of its request, which is a right one if the
call starts now. -/
lemma send_spec (listener : ListenerImpl) (log : List Event) {newGuid : String}
    {request : SendRequest} {pc' : SendCall → Pc} (h : send newGuid pc = some (request, pc'))
    (c : SendCall) :
    (pc' c).callback = pc.callback ∧ (pc' c).calls = c :: pc.calls ∧ (pc' c).ended = pc.ended ∧
      (Made listener log pc → c.request = request → c.start = log.length →
        Made listener log (pc' c)) := by
  cases pc with
  | answer header =>
    cases h
    exact ⟨rfl, rfl, rfl, fun _ hrequest _ => .answering header c hrequest⟩
  | insert insertSql binaryContents =>
    cases h
    refine ⟨rfl, rfl, rfl, fun hmade hrequest _ => ?_⟩
    cases hmade with
    | insert _ _ hbuilds =>
      exact .inserting c ⟨newGuid, insertSql, binaryContents, hbuilds, hrequest⟩
  | query insertion =>
    cases h
    refine ⟨rfl, rfl, rfl, fun hmade hrequest hstart => ?_⟩
    cases hmade with
    | query _ hinserts hsent =>
      obtain ⟨binary, hmem⟩ := hsent
      obtain ⟨newer, older, hlog⟩ := List.append_of_mem hmem
      refine .querying insertion c hinserts ⟨newGuid, hrequest⟩ ⟨newer, older, binary, hlog, ?_⟩
      rw [hstart, hlog, List.length_append, List.length_cons]
      omega
  | _ => cases h

/-- A callback goes on with its calls, all of which have come to their end, if its insertion has
been handed to the socket or has thrown. -/
lemma awaited_spec (listener : ListenerImpl) {client : Client} {c : SendCall} {pc' : Pc}
    (h : awaited client pc = some (c, pc')) :
    pc'.callback = pc.callback ∧ pc'.calls = pc.calls ∧ pc'.ended = pc.calls ∧
      pc.calls = c :: pc.ended ∧
      (Made listener client.shared.log pc →
        ((∃ binary, .sent c.thread binary ∈ client.shared.log) ∨
          ∃ e, .threw c.thread e ∈ client.shared.log) → Made listener client.shared.log pc') := by
  cases pc with
  | answering header call =>
    cases h
    refine ⟨rfl, rfl, rfl, rfl, fun hmade _ => ?_⟩
    cases hmade with
    | answering _ _ hrequest => exact .answered header c hrequest
  | inserting insertion =>
    simp only [awaited, Option.some.injEq, Prod.mk.injEq] at h
    obtain ⟨rfl, hpc⟩ := h
    split_ifs at hpc with hthrew
    · subst hpc
      refine ⟨rfl, rfl, rfl, rfl, fun hmade _ => ?_⟩
      obtain ⟨e, he, hbool⟩ := List.any_eq_true.mp hthrew
      cases hmade with
      | inserting _ hinserts =>
        cases e with
        | threw i e =>
          obtain rfl := of_decide_eq_true hbool
          exact .rejected insertion hinserts ⟨e, he⟩
        | _ => cases hbool
    · subst hpc
      refine ⟨rfl, rfl, rfl, rfl, fun hmade hended => ?_⟩
      cases hmade with
      | inserting _ hinserts =>
        refine .query insertion hinserts (hended.resolve_right ?_)
        rintro ⟨e, he⟩
        exact hthrew (List.any_eq_true.mpr ⟨_, he, decide_eq_true rfl⟩)
  | querying insertion call =>
    cases h
    refine ⟨rfl, rfl, rfl, rfl, fun hmade _ => ?_⟩
    cases hmade with
    | querying _ _ hinserts hqueries hbefore =>
      exact .queried insertion c hinserts hqueries hbefore
  | _ => cases h

end ListenerImpl

namespace Program

variable {cfg : Config} {listener : ListenerImpl} {ok : Guard Program Label} {p p' : Program}
  {l : Label} {calls : List SendCall}

/-! ## The callbacks -/

/-- The listener starts a callback for every method that is called, in their order. -/
lemma foldr_call (methods : List Callback) (pool : Pool Bool ListenerImpl.Pc) :
    methods.foldr call pool = ⟨pool.shared, pool.threads ++ methods.reverse.map .testClient⟩ := by
  induction methods with
  | nil => simp
  | cons callback methods ih =>
    rw [List.foldr_cons, ih, ListenerImpl.call, Pool.spawn, List.reverse_cons, List.map_append,
      ← List.append_assoc]
    rfl

/-- A step of a client adds to its history. -/
lemma exists_newer {s s' : Client} {l : Gds.Label} (h : AsyncGDSClient.step cfg s l = some s') :
    ∃ new, s'.shared.log = new ++ s.shared.log := by
  rcases AsyncGDSClient.step_cases h with ⟨c, -, rfl⟩ | ⟨e, -, -, rfl⟩ |
    ⟨i, pc, sh', pc', -, -, hm, rfl⟩
  · exact ⟨[], rfl⟩
  · exact ⟨[], rfl⟩
  · rcases hm.ended with ⟨new, hlog, -⟩ | ⟨e, -, hlog, -⟩
    · exact ⟨new, hlog⟩
    · exact ⟨[e], hlog⟩

/-- The methods that were called are those that were called before and the new ones. -/
lemma callbacks_eq_newer {client : Client} {l : Gds.Label}
    (h : AsyncGDSClient.step cfg p.client l = some client) :
    callbacks client.shared = newer p.client client ++ callbacks p.client.shared := by
  obtain ⟨new, hlog⟩ := exists_newer h
  have hcallbacks : callbacks client.shared =
      new.filterMap callbackOf ++ callbacks p.client.shared := by
    rw [callbacks, hlog, List.filterMap_append]
    rfl
  have hnewer : newer p.client client = new.filterMap callbackOf := by
    rw [newer, hcallbacks, List.length_append, Nat.add_sub_cancel, List.take_left]
  rw [hnewer, hcallbacks]

/-- A callback that goes on runs the same method. -/
lemma map_callback_set {pcs : List ListenerImpl.Pc} {k : ℕ} {pc pc' : ListenerImpl.Pc}
    (hk : pcs[k]? = some pc) (hcallback : pc'.callback = pc.callback) :
    (pcs.set k pc').map Pc.callback = pcs.map Pc.callback := by
  obtain ⟨hlt, rfl⟩ := List.getElem?_eq_some_iff.mp hk
  rw [List.map_set, hcallback, ← List.getElem_map Pc.callback (h := by simpa using hlt),
    List.set_getElem_self]

/-- The callbacks are those of the methods that the client has called. -/
theorem callbacks_eq (h : (system cfg listener).Reachable ok p) :
    p.listener.threads.map Pc.callback = (callbacks p.client.shared).reverse := by
  refine h.invariant (I := fun p : Program =>
    p.listener.threads.map Pc.callback = (callbacks p.client.shared).reverse) rfl ?_
  intro p l p' hp _ hstep
  cases step_cases hstep with
  | attaches => exact hp
  | runs l client hclient =>
    rw [foldr_call, callbacks_eq_newer hclient, List.reverse_append, List.map_append, hp,
      List.map_map]
    simp [Function.comp_def, Pc.callback]
  | tests k callback hk =>
    refine (map_callback_set hk ?_).trans hp
    split_ifs
    · exact (start_spec listener [] callback).1
    · rfl
  | builds k file eventTime frontTime rearTime hk =>
    have hbuilt := (built_spec listener [] file eventTime frontTime rearTime).1
    exact (map_callback_set hk hbuilt).trans hp
  | sends k newGuid stamp pc request pc' hk h =>
    exact (map_callback_set hk (send_spec listener [] h _).1).trans hp
  | finishes k pc pc' c hk h hdone =>
    exact (map_callback_set hk (awaited_spec listener h).1).trans hp

/-! ## The calls of the callbacks -/

/-- What a callback knows: the client is attached, its calls are calls of the client, those that it
has waited for are at their end, and it has done what it should have. -/
structure Knows (listener : ListenerImpl) (client : Client) (calls : List SendCall)
    (attached : Bool) (pc : ListenerImpl.Pc) : Prop where
  attached : attached = true
  calls : ∀ c ∈ pc.calls, c ∈ calls
  ended : ∀ c ∈ pc.ended, client.threads[c.thread]? = some .done
  made : Made listener client.shared.log pc

/-- No two callbacks have made the same call. -/
def Distinct (pcs : List ListenerImpl.Pc) : Prop :=
  ∀ (k k' : ℕ) (pc pc' : ListenerImpl.Pc) (c c' : SendCall), pcs[k]? = some pc →
    pcs[k']? = some pc' → c ∈ pc.calls → c' ∈ pc'.calls → c.thread = c'.thread → k = k'

/-- The callbacks know their calls, and no two of them have the same. -/
structure Linked (listener : ListenerImpl) (p : Program) (calls : List SendCall) : Prop where
  knows : ∀ pc ∈ p.listener.threads, Knows listener p.client calls p.listener.shared pc
  running : ∀ c ∈ calls, c.thread < p.client.threads.length
  distinct : Distinct p.listener.threads

/-- A thread that is done stays so, and no thread disappears. -/
lemma threads_step {s s' : Client} {l : Gds.Label} (h : AsyncGDSClient.step cfg s l = some s') :
    (∀ i : ℕ, s.threads[i]? = some .done → s'.threads[i]? = some .done) ∧
      s.threads.length ≤ s'.threads.length := by
  rcases AsyncGDSClient.step_cases h with ⟨c, -, rfl⟩ | ⟨e, -, -, rfl⟩ |
    ⟨i, pc, sh', pc', -, hpc, hm, rfl⟩
  · exact ⟨fun i hi => Pool.at_spawn hi, by simp [Pool.spawn]⟩
  · exact ⟨fun i hi => Pool.at_spawn hi, by simp [Pool.spawn]⟩
  · refine ⟨fun j hj => ?_, by simp⟩
    have hne : i ≠ j := by
      rintro rfl
      cases hpc.symm.trans hj
      cases hm
    change (s.threads.set i pc')[j]? = _
    rw [List.getElem?_set_ne hne]
    exact hj

/-- What a callback knows it still knows when the client has gone on. -/
lemma Knows.mono {s s' : Client} {l : Gds.Label} {calls' : List SendCall} {attached : Bool}
    {pc : ListenerImpl.Pc} (h : Knows listener s calls attached pc)
    (hstep : AsyncGDSClient.step cfg s l = some s') (hcalls : ∀ c ∈ calls, c ∈ calls') :
    Knows listener s' calls' attached pc := by
  obtain ⟨new, hlog⟩ := exists_newer hstep
  refine ⟨h.attached, fun c hc => hcalls c (h.calls c hc), fun c hc => ?_, ?_⟩
  · exact (threads_step hstep).1 _ (h.ended c hc)
  · rw [hlog]
    exact h.made.append new

/-- A callback that has made no call knows nothing of calls. -/
lemma Knows.of_calls_eq_nil {client : Client} {attached : Bool} {pc : ListenerImpl.Pc}
    (hattached : attached = true) (hcalls : pc.calls = []) (hended : pc.ended = [])
    (hmade : Made listener client.shared.log pc) : Knows listener client calls attached pc := by
  refine ⟨hattached, fun c hc => ?_, fun c hc => ?_, hmade⟩
  · rw [hcalls] at hc
    cases hc
  · rw [hended] at hc
    cases hc

/-- A callback that goes on with a call that no callback has made keeps the callbacks apart. -/
lemma Distinct.set {pcs : List ListenerImpl.Pc} {k : ℕ} {pc pc' : ListenerImpl.Pc}
    (h : Distinct pcs) (hk : pcs[k]? = some pc)
    (hnew : ∀ c' ∈ pc'.calls, c' ∈ pc.calls ∨ ∀ q ∈ pcs, ∀ c ∈ q.calls, c.thread ≠ c'.thread) :
    Distinct (pcs.set k pc') := by
  have hcases : ∀ {j q}, (pcs.set k pc')[j]? = some q → (j = k ∧ q = pc') ∨
      (j ≠ k ∧ pcs[j]? = some q) := by
    intro j q hj
    by_cases hjk : j = k
    · subst hjk
      rw [Pool.at_set hk] at hj
      exact .inl ⟨rfl, (Option.some.inj hj).symm⟩
    · rw [List.getElem?_set_ne (Ne.symm hjk)] at hj
      exact .inr ⟨hjk, hj⟩
  -- another callback has no call of the one that goes on
  have hother : ∀ {j q c c'}, j ≠ k → pcs[j]? = some q → c ∈ q.calls → c' ∈ pc'.calls →
      c.thread ≠ c'.thread := by
    intro j q c c' hne hj hc hc' hthread
    rcases hnew c' hc' with hold | hfresh
    · exact hne (h j k q pc c c' hj hk hc hold hthread)
    · exact hfresh q (List.mem_of_getElem? hj) c hc hthread
  intro j j' q q' c c' hj hj' hc hc' hthread
  rcases hcases hj with ⟨rfl, rfl⟩ | ⟨hne, hold⟩
  · rcases hcases hj' with ⟨rfl, rfl⟩ | ⟨hne', hold'⟩
    · rfl
    · exact absurd hthread.symm (hother hne' hold' hc' hc)
  · rcases hcases hj' with ⟨rfl, rfl⟩ | ⟨-, hold'⟩
    · exact absurd hthread (hother hne hold hc hc')
    · exact h j j' q q' c c' hold hold' hc hc' hthread

/-- Callbacks that start have made no call. -/
lemma Distinct.append {pcs : List ListenerImpl.Pc} (h : Distinct pcs)
    (methods : List Callback) : Distinct (pcs ++ methods.map .testClient) := by
  have hold : ∀ {k : ℕ} {pc : ListenerImpl.Pc} {c : SendCall},
      (pcs ++ methods.map ListenerImpl.Pc.testClient)[k]? = some pc → c ∈ pc.calls →
        pcs[k]? = some pc := by
    intro k pc c hk hc
    rcases Nat.lt_or_ge k pcs.length with hlt | hge
    · rwa [List.getElem?_append_left hlt] at hk
    · rw [List.getElem?_append_right hge] at hk
      obtain ⟨callback, -, rfl⟩ := List.mem_map.mp (List.mem_of_getElem? hk)
      cases hc
  intro k k' pc pc' c c' hk hk' hc hc' hthread
  exact h k k' pc pc' c c' (hold hk hc) (hold hk' hc') hc hc' hthread

/-- A call of a send method is a new thread. -/
lemma thread_of_sendCall {s s' : Client} {l : Gds.Label} {c : SendCall}
    (h : AsyncGDSClient.step cfg s l = some s') (hc : c ∈ (sendCall s l).toList) :
    c.thread = s.threads.length ∧ s.threads.length < s'.threads.length := by
  obtain ⟨call, rfl⟩ : ∃ call, l = .call call := by
    cases l with
    | call call => exact ⟨call, rfl⟩
    | _ => cases hc
  cases call with
  | send request stamp =>
    cases h
    cases List.mem_singleton.mp hc
    exact ⟨rfl, by simp [Pool.spawn]⟩
  | _ => cases hc

/-- A callback that goes on keeps the callbacks linked, if it knows its calls and has made none of
another callback. -/
lemma Linked.set (hp : Linked listener p calls) {k : ℕ} {pc pc' : ListenerImpl.Pc}
    (hk : p.listener.threads[k]? = some pc)
    (hknows : Knows listener p.client calls p.listener.shared pc')
    (hnew : ∀ c' ∈ pc'.calls, c' ∈ pc.calls ∨
      ∀ q ∈ p.listener.threads, ∀ c ∈ q.calls, c.thread ≠ c'.thread) :
    Linked listener ⟨p.client, p.listener.shared, p.listener.threads.set k pc'⟩ calls where
  knows := Pool.forall_set hp.knows hknows
  running := hp.running
  distinct := hp.distinct.set hk hnew

/-- A callback that goes on before it has made a call keeps the callbacks linked. -/
lemma Linked.set_of_calls_eq_nil (hp : Linked listener p calls) {k : ℕ} {pc pc' : ListenerImpl.Pc}
    (hk : p.listener.threads[k]? = some pc) (hcalls : pc'.calls = []) (hended : pc'.ended = [])
    (hmade : Made listener p.client.shared.log pc') :
    Linked listener ⟨p.client, p.listener.shared, p.listener.threads.set k pc'⟩ calls := by
  have hattached := (hp.knows _ (List.mem_of_getElem? hk)).attached
  refine hp.set hk (.of_calls_eq_nil hattached hcalls hended hmade) fun c hc => ?_
  rw [hcalls] at hc
  cases hc

/-- A step of the client keeps the callbacks linked to their calls. -/
lemma Linked.client (hp : Linked listener p calls) {l : Gds.Label} {client : Client}
    (hclient : AsyncGDSClient.step cfg p.client l = some client) :
    Linked listener ⟨client, p.listener⟩ ((sendCall p.client l).toList ++ calls) := by
  refine ⟨fun pc hpc => ?_, fun c hc => ?_, hp.distinct⟩
  · exact (hp.knows pc hpc).mono hclient fun c hc => List.mem_append_right _ hc
  · rcases List.mem_append.mp hc with hc | hc
    · obtain ⟨hthread, hlt⟩ := thread_of_sendCall hclient hc
      rw [hthread]
      exact hlt
    · exact Nat.lt_of_lt_of_le (hp.running c hc) (threads_step hclient).2

/-- The call that an observer sees when a callback calls the client. -/
lemma watched_send {k : ℕ} {newGuid : String} {stamp : Stamp} {pc : ListenerImpl.Pc}
    {request : SendRequest} {pc' : SendCall → ListenerImpl.Pc}
    (hk : p.listener.threads[k]? = some pc)
    (h : ListenerImpl.send newGuid pc = some (request, pc')) :
    watched sendCall p (.send k newGuid stamp) =
      some ⟨p.client.threads.length, p.client.shared.log.length, request, stamp⟩ := by
  simp [watched, clientLabel_send stamp hk h, sendCall]

/-- A step keeps the callbacks linked to their calls. -/
lemma linked_effect (hp : Linked listener p calls) (hsends : SendCalls cfg p.client calls)
    (hok : AttachedFirst p l) (h : Effect cfg listener p l p') :
    Linked listener p' ((watched sendCall p l).toList ++ calls) := by
  cases h with
  | attaches =>
    refine ⟨fun pc hpc => ?_, hp.running, hp.distinct⟩
    have hknows := hp.knows pc hpc
    exact ⟨rfl, hknows.calls, hknows.ended, hknows.made⟩
  | runs l client hclient =>
    have hattached : p.listener.shared = true := hok
    have hnext := hp.client hclient
    rw [foldr_call]
    refine ⟨fun pc hpc => ?_, hnext.running, hnext.distinct.append _⟩
    rcases List.mem_append.mp hpc with hpc | hpc
    · exact hnext.knows pc hpc
    · obtain ⟨callback, -, rfl⟩ := List.mem_map.mp hpc
      exact .of_calls_eq_nil hattached rfl rfl (.testClient callback)
  | tests k callback hk =>
    obtain ⟨-, hcalls, hended, hmade⟩ := start_spec listener p.client.shared.log callback
    rw [if_pos (hp.knows _ (List.mem_of_getElem? hk)).attached]
    exact hp.set_of_calls_eq_nil hk hcalls hended hmade
  | builds k file eventTime frontTime rearTime hk =>
    obtain ⟨-, hcalls, hended, hmade⟩ := built_spec listener p.client.shared.log file eventTime
      frontTime rearTime
    exact hp.set_of_calls_eq_nil hk hcalls hended hmade
  | sends k newGuid stamp pc request pc' hk hsend =>
    have hknows := hp.knows _ (List.mem_of_getElem? hk)
    have hstep : AsyncGDSClient.step cfg p.client (.call (.send request stamp)) =
        some (p.client.spawn p.client.shared ((Call.send request stamp).start cfg)) := rfl
    have hnext := hp.client hstep
    obtain ⟨-, hcalls, hended, hmade⟩ := send_spec listener p.client.shared.log hsend
      ⟨p.client.threads.length, p.client.shared.log.length, request, stamp⟩
    rw [watched_send hk hsend]
    refine hnext.set hk ⟨hknows.attached, fun c hc => ?_, fun c hc => ?_, ?_⟩ fun c hc => ?_
    · rw [hcalls] at hc
      rcases List.mem_cons.mp hc with rfl | hc
      · exact List.mem_cons_self
      · exact List.mem_cons_of_mem _ (hknows.calls c hc)
    · rw [hended] at hc
      exact Pool.at_spawn (hknows.ended c hc)
    · exact hmade hknows.made rfl rfl
    · rw [hcalls] at hc
      rcases List.mem_cons.mp hc with rfl | hc
      · -- the calls of all callbacks have started before
        refine .inr fun q hq c hc => Nat.ne_of_lt (hp.running c ?_)
        exact (hp.knows q hq).calls c hc
      · exact .inl hc
  | finishes k pc pc' c hk hawaited hdone =>
    have hknows := hp.knows _ (List.mem_of_getElem? hk)
    obtain ⟨-, hcalls, hended, hold, hmade⟩ := awaited_spec listener hawaited
    have hcall : c ∈ calls := hknows.calls c (by rw [hold]; exact List.mem_cons_self)
    have houtcome := hsends.knows c hcall
    rw [hdone] at houtcome
    refine hp.set hk ⟨hknows.attached, fun c hc => ?_, fun c hc => ?_, ?_⟩ fun c hc => ?_
    · rw [hcalls] at hc
      exact hknows.calls c hc
    · rw [hended, hold] at hc
      rcases List.mem_cons.mp hc with rfl | hc
      · exact hdone
      · exact hknows.ended c hc
    · exact hmade hknows.made (SendCall.Outcome.sent_or_threw houtcome)
    · rw [hcalls] at hc
      exact .inl hc

/-- In every run in which the client is attached first, the callbacks are linked to their calls. -/
theorem linked {q : Program × List SendCall}
    (h : ((system cfg listener).observe (watched sendCall)).Reachable
      (System.observed AttachedFirst) q) : Linked listener q.1 q.2 := by
  refine h.invariant_of (J := fun q => SendCalls cfg q.1.client q.2)
    (I := fun q => Linked listener q.1 q.2)
    (fun q hq => AsyncGDSClient.sendCalls (client_reachable hq)) ?_ ?_
  · constructor <;> simp [system, System.observe, Distinct]
  · rintro ⟨p, seen⟩ l ⟨p', seen'⟩ hsends hp hok hstep
    obtain ⟨hnext, rfl⟩ := System.step_of_observe hstep
    exact linked_effect hp hsends hok (step_cases hnext)

end Program

end Gds
