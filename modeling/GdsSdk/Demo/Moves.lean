import GdsSdk.Demo.SyncGDSClient

/-!
# What a step of the wrapper can do

`Start` lists the ways in which a thread can start, and `Move` the atomic steps of the threads,
one constructor for each way in which a program point can be left.  `step_cases` says that every
step of a wrapper is one or the other, and `at_step` what a step is for one of the threads.
-/

namespace Gds

open Transition

namespace SyncGDSClient

/-- Thread `n` starts and changes the shared state. -/
inductive Start (n : ℕ) (sh : Shared) : Label → Shared → Pc → Prop
  | rejected (request : Request) (newGuid : String) (e : RequestException)
      (h : request.start newGuid = .error e) :
    Start n sh (.call request newGuid) (sh.record (.threw n e)) .done
  | called (request : Request) (newGuid : String) (c : Call)
      (h : request.start newGuid = .ok c) :
    Start n sh (.call request newGuid) (sh.record (.called n c)) (.call c .send)
  | delivered (header : MessageHeader) (ack : Ack) :
    Start n sh (.acknowledge header ack) (sh.record (.delivered n header ack))
      (.onAck (.tryRemove header ack))
  | failed (cause : String) :
    Start n sh (.fail cause) sh (.onConnectionFailure (.getEnumerator cause))

/-- Thread `i` moves from one program point to the next and changes the shared state. -/
inductive Move (cfg : Config) (i : ℕ) (sh : Shared) : Pc → Shared → Pc → Prop
  -- SendEvent2Async and SendQueryAsync
  | sendFails (c : Call) (e : RequestException) :
    Move cfg i sh (.call c .send) (sh.record (.threw i e)) .done
  | hands (c : Call) (tested shown : ConnectionState) (stamp : Stamp) (binary : List UInt8)
      (h : c.send cfg tested shown stamp = .ok binary) :
    Move cfg i sh (.call c .send) (sh.record (.handed i binary)) (.call c .tryAdd)
  | duplicate (c : Call) (h : c.messageId ∈ sh.pendingMessages) (e : RequestException) :
    Move cfg i sh (.call c .tryAdd) (sh.record (.threw i e)) .done
  | registers (c : Call) (h : c.messageId ∉ sh.pendingMessages) :
    Move cfg i sh (.call c .tryAdd) (sh.register i c.messageId) (.call c .delay)
  | delayThrows (c : Call) (h : maxDelay < c.request.timeout.totalMilliseconds)
      (e : RequestException) : Move cfg i sh (.call c .delay) sh (.call c (.catchRemove e))
  | delays (c : Call) : Move cfg i sh (.call c .delay) sh (.call c (.whenAny false))
  | timerElapses (c : Call) :
    Move cfg i sh (.call c (.whenAny false)) (sh.record (.elapsed i)) (.call c (.whenAny true))
  | completedBefore (c : Call) (elapsed : Bool) (h : (sh.tasks i).isSome) :
    Move cfg i sh (.call c (.whenAny elapsed)) sh (.call c (.tryRemove false))
  | elapsedBefore (c : Call) (h : sh.tasks i = none) :
    Move cfg i sh (.call c (.whenAny true)) sh (.call c (.tryRemove true))
  | waits (c : Call) (h : sh.tasks i = none) :
    Move cfg i sh (.call c (.whenAny false)) sh (.call c .wait)
  | waitEnds (c : Call) (h : (sh.tasks i).isSome) :
    Move cfg i sh (.call c .wait) sh (.call c (.tryRemove false))
  | waitElapses (c : Call) (h : sh.tasks i = none) :
    Move cfg i sh (.call c .wait) (sh.record (.elapsed i)) (.call c (.tryRemove true))
  | cleansUp (c : Call) :
    Move cfg i sh (.call c (.tryRemove false)) ((sh.remove c.messageId).record (.cleanedUp i))
      (.call c .result)
  | timesOut (c : Call) (e : RequestException) :
    Move cfg i sh (.call c (.tryRemove true)) ((sh.remove c.messageId).record (.cleanedUp i))
      (.call c (.catchRemove e))
  | returns (c : Call) (ack : Ack) (h : sh.tasks i = some (.result ack))
      (haccepts : c.request.accepts ack = true) :
    Move cfg i sh (.call c .result) (sh.record (.returned i ack)) .done
  | castThrows (c : Call) (ack : Ack) (h : sh.tasks i = some (.result ack))
      (haccepts : c.request.accepts ack = false) (e : RequestException) :
    Move cfg i sh (.call c .result) sh (.call c (.catchRemove e))
  | rethrows (c : Call) (e : RequestException) (h : sh.tasks i = some (.exception e)) :
    Move cfg i sh (.call c .result) sh (.call c (.catchRemove e))
  | throws (c : Call) (e : RequestException) :
    Move cfg i sh (.call c (.catchRemove e))
      (((sh.remove c.messageId).record (.cleanedUp i)).record (.threw i e)) .done
  -- OnEventAck3 and OnQueryRequestAck11
  | ackThrows (header : MessageHeader) (ack : Ack) (hheader : header.messageId = none)
      (e : RequestException) :
    Move cfg i sh (.onAck (.tryRemove header ack)) (sh.record (.threw i e)) .done
  | ackFinds (header : MessageHeader) (ack : Ack) (messageId : String)
      (hheader : header.messageId = some messageId) (task : ℕ)
      (h : sh.pendingMessages.lookup messageId = some task) :
    Move cfg i sh (.onAck (.tryRemove header ack)) (sh.remove messageId)
      (.onAck (.trySetResult task ack))
  | ackMisses (header : MessageHeader) (ack : Ack) (messageId : String)
      (hheader : header.messageId = some messageId)
      (h : sh.pendingMessages.lookup messageId = none) :
    Move cfg i sh (.onAck (.tryRemove header ack)) sh .done
  | ackSets (task : ℕ) (ack : Ack) :
    Move cfg i sh (.onAck (.trySetResult task ack)) (sh.trySet task (.result ack)) .done
  -- OnConnectionFailure
  | failureStarts (cause : String) (e : RequestException) :
    Move cfg i sh (.onConnectionFailure (.getEnumerator cause)) sh
      (.onConnectionFailure (.moveNext e sh.pendingMessages))
  | failureVisits (e : RequestException) (unseen : AList fun _ : String => ℕ) (key : String)
      (task : ℕ) :
    Move cfg i sh (.onConnectionFailure (.moveNext e unseen)) sh
      (.onConnectionFailure (.trySetException e task (unseen.erase key)))
  | failureSets (e : RequestException) (task : ℕ) (unseen : AList fun _ : String => ℕ) :
    Move cfg i sh (.onConnectionFailure (.trySetException e task unseen))
      (sh.trySet task (.exception e)) (.onConnectionFailure (.moveNext e unseen))
  | failureEnds (e : RequestException) (unseen : AList fun _ : String => ℕ) :
    Move cfg i sh (.onConnectionFailure (.moveNext e unseen)) sh (.onConnectionFailure .clear)
  | clears :
    Move cfg i sh (.onConnectionFailure .clear) { sh with pendingMessages := ∅ } .done

namespace Move

variable {cfg : Config} {i : ℕ} {sh sh' : Shared} {pc' : Pc}

lemma of_send {pc : Pc} {tested shown : ConnectionState} {stamp : Stamp}
    (h : send cfg i sh tested shown stamp pc = some (sh', pc')) : Move cfg i sh pc sh' pc' := by
  unfold send at h
  split at h
  · split at h
    · cases h
      exact .sendFails _ _
    · rename_i binary hbinary
      cases h
      exact .hands _ tested shown stamp binary hbinary
  · cases h

lemma of_sendAsync {c : Call} {pc : CallPc} (h : sendAsync i sh c pc = some (sh', pc')) :
    Move cfg i sh (.call c pc) sh' pc' := by
  cases pc with
  | send => cases h
  | tryAdd =>
    simp only [sendAsync] at h
    split_ifs at h with hmem
    · cases h
      exact .duplicate c hmem _
    · cases h
      exact .registers c hmem
  | delay =>
    simp only [sendAsync] at h
    split_ifs at h with hdelay
    · cases h
      exact .delayThrows c hdelay _
    · cases h
      exact .delays c
  | whenAny elapsed =>
    simp only [sendAsync] at h
    split_ifs at h with hset helapsed
    · cases h
      exact .completedBefore c elapsed hset
    · cases h
      subst helapsed
      exact .elapsedBefore c (by simpa using hset)
    · cases h
      rw [Bool.not_eq_true] at helapsed
      subst helapsed
      exact .waits c (by simpa using hset)
  | wait =>
    simp only [sendAsync] at h
    split_ifs at h with hset
    cases h
    exact .waitEnds c hset
  | tryRemove timedOut =>
    cases timedOut with
    | false =>
      cases h
      exact .cleansUp c
    | true =>
      cases h
      exact .timesOut c _
  | result =>
    simp only [sendAsync] at h
    split at h
    · cases h
    · rename_i e hset
      cases h
      exact .rethrows c e hset
    · rename_i ack hset
      split_ifs at h with haccepts
      · cases h
        exact .returns c ack hset haccepts
      · cases h
        exact .castThrows c ack hset (by simpa using haccepts) _
  | catchRemove e => cases h; exact .throws c e

lemma of_onAck {pc : OnAckPc} (h : onAck i sh pc = some (sh', pc')) :
    Move cfg i sh (.onAck pc) sh' pc' := by
  cases pc with
  | tryRemove header ack =>
    simp only [onAck] at h
    split at h
    · rename_i hheader
      cases h
      exact .ackThrows header ack hheader _
    · rename_i messageId hheader
      split at h
      · rename_i task hlookup
        cases h
        exact .ackFinds header ack messageId hheader task hlookup
      · rename_i hlookup
        cases h
        exact .ackMisses header ack messageId hheader hlookup
  | trySetResult task ack => cases h; exact .ackSets task ack

lemma of_onConnectionFailure {pc : OnConnectionFailurePc}
    (h : onConnectionFailure sh pc = some (sh', pc')) :
    Move cfg i sh (.onConnectionFailure pc) sh' pc' := by
  cases pc with
  | getEnumerator cause => cases h; exact .failureStarts cause _
  | moveNext e unseen =>
    simp only [onConnectionFailure] at h
    split_ifs at h
    cases h
    exact .failureEnds e unseen
  | trySetException e task unseen => cases h; exact .failureSets e task unseen
  | clear => cases h; exact .clears

/-- Every step of a program is a move. -/
theorem of_next {pc : Pc} (h : next i sh pc = some (sh', pc')) : Move cfg i sh pc sh' pc' :=
  match pc, h with
  | .call _ _, h => of_sendAsync h
  | .onAck _, h => of_onAck h
  | .onConnectionFailure _, h => of_onConnectionFailure h

/-- A timer that elapses is a move. -/
lemma of_elapse {pc : Pc} (h : elapse i sh pc = some (sh', pc')) : Move cfg i sh pc sh' pc' := by
  unfold elapse at h
  split at h
  · cases h
    exact .timerElapses _
  · split_ifs at h with hset
    cases h
    exact .waitElapses _ (by simpa using hset)
  · cases h

/-- The loop over the entries moves on to one of them. -/
lemma of_visit {pc : Pc} {key : String} (h : visit sh key pc = some (sh', pc')) :
    Move cfg i sh pc sh' pc' := by
  unfold visit at h
  split at h
  · obtain ⟨task, -, heq⟩ := Option.map_eq_some_iff.mp h
    cases heq
    exact .failureVisits _ _ key task
  · cases h

end Move

variable {cfg : Config} {s s' : Wrapper} {l : Label}

/-- A step starts a thread, or is a move of one. -/
theorem step_cases (h : step cfg s l = some s') :
    (∃ sh' pc', l.thread = none ∧ Start s.threads.length s.shared l sh' pc' ∧
      s' = s.spawn sh' pc') ∨
    ∃ i pc sh' pc', l.thread = some i ∧ s.threads[i]? = some pc ∧
      Move cfg i s.shared pc sh' pc' ∧ s' = ⟨sh', s.threads.set i pc'⟩ := by
  cases l with
  | call request newGuid =>
    simp only [step] at h
    split at h
    · rename_i e hstart
      cases h
      exact .inl ⟨_, _, rfl, .rejected request newGuid e hstart, rfl⟩
    · rename_i c hstart
      cases h
      exact .inl ⟨_, _, rfl, .called request newGuid c hstart, rfl⟩
  | acknowledge header ack =>
    cases h
    exact .inl ⟨_, _, rfl, .delivered header ack, rfl⟩
  | fail cause =>
    cases h
    exact .inl ⟨_, _, rfl, .failed cause, rfl⟩
  | step i =>
    obtain ⟨pc, sh', pc', hpc, hnext, rfl⟩ := Pool.move_eq_some.mp h
    exact .inr ⟨i, pc, sh', pc', rfl, hpc, .of_next hnext, rfl⟩
  | send i tested shown stamp =>
    simp only [step] at h
    obtain ⟨pc, sh', pc', hpc, hnext, rfl⟩ := Pool.move_eq_some.mp h
    exact .inr ⟨i, pc, sh', pc', rfl, hpc, .of_send hnext, rfl⟩
  | elapse i =>
    obtain ⟨pc, sh', pc', hpc, hnext, rfl⟩ := Pool.move_eq_some.mp h
    exact .inr ⟨i, pc, sh', pc', rfl, hpc, .of_elapse hnext, rfl⟩
  | visit i key =>
    simp only [step] at h
    obtain ⟨pc, sh', pc', hpc, hnext, rfl⟩ := Pool.move_eq_some.mp h
    exact .inr ⟨i, pc, sh', pc', rfl, hpc, .of_visit hnext, rfl⟩

/-- A step is a move of a given thread, or leaves it where it is. -/
lemma at_step {i : ℕ} {pc : Pc} (hpc : s.threads[i]? = some pc) (h : step cfg s l = some s') :
    (l.thread ≠ some i ∧ s'.threads[i]? = some pc) ∨
      ∃ sh' pc', l.thread = some i ∧ Move cfg i s.shared pc sh' pc' ∧
        s' = ⟨sh', s.threads.set i pc'⟩ := by
  rcases step_cases h with ⟨sh', pc', hl, -, rfl⟩ | ⟨j, q, sh', q', hl, hq, hm, rfl⟩
  · left
    rw [hl]
    exact ⟨by simp, Pool.at_spawn hpc⟩
  · by_cases hij : i = j
    · subst hij
      cases hpc.symm.trans hq
      exact .inr ⟨sh', q', hl, hm, rfl⟩
    · left
      rw [hl, List.getElem?_set_ne (Ne.symm hij)]
      exact ⟨fun heq => hij (Option.some.inj heq).symm, hpc⟩

/-! ## The loop of `OnConnectionFailure` -/

/-- The loop of a thread comes to an entry. -/
def Label.isVisit : Label → Bool
  | visit _ _ => true
  | _ => false

/-- The loop has come to an entry. -/
def Pc.isVisiting : Pc → Bool
  | .onConnectionFailure (.trySetException _ _ _) => true
  | _ => false

/-- The loop comes to entries by their own steps only. -/
lemma isVisiting_of_step {i : ℕ} {pc' : Pc} (h : step cfg s l = some s') (hl : l.thread = some i)
    (hvisit : l.isVisit = false) (hpc' : s'.threads[i]? = some pc') : pc'.isVisiting = false := by
  have hmove : ∀ f : Shared → Pc → Option (Shared × Pc), s.move i f = some s' →
      ∃ pc sh', f s.shared pc = some (sh', pc') := by
    intro f hf
    obtain ⟨pc, sh', q, hpc, hnext, rfl⟩ := Pool.move_eq_some.mp hf
    cases (Pool.at_set hpc).symm.trans hpc'
    exact ⟨pc, sh', hnext⟩
  cases l with
  | call | acknowledge | fail => cases hl
  | visit => cases hvisit
  | step =>
    cases hl
    obtain ⟨pc, sh', hnext⟩ := hmove _ h
    have hm : Move cfg i s.shared pc sh' pc' := .of_next hnext
    cases hm with
    | failureVisits =>
      simp only [next, onConnectionFailure] at hnext
      split_ifs at hnext
      cases hnext
    | _ => rfl
  | send =>
    cases hl
    simp only [step] at h
    obtain ⟨pc, sh', hnext⟩ := hmove _ h
    have hm : Move cfg i s.shared pc sh' pc' := .of_send hnext
    cases hm with
    | failureVisits => cases hnext
    | _ => rfl
  | elapse =>
    cases hl
    obtain ⟨pc, sh', hnext⟩ := hmove _ h
    have hm : Move cfg i s.shared pc sh' pc' := .of_elapse hnext
    cases hm with
    | failureVisits => cases hnext
    | _ => rfl

end SyncGDSClient

end Gds
