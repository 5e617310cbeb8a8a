import GdsSdk.Demo.Answers

/-!
# Every answer is on its way

In every run of separate requests in which every acknowledgement is heard, the threads and the
shared state agree with the phases.
-/

namespace Gds

open Transition

namespace SyncGDSClient

/-! ## Moves -/

namespace Move

variable {cfg : Config} {i j k : ℕ} {sh sh' : Shared} {pc pc' : Pc} {key : String}

/-- A move leaves an entry where it is, or its thread is about to remove the key. -/
lemma lookup_or (h : Move cfg j sh pc sh' pc')
    (hlookup : sh.pendingMessages.lookup key = some i) :
    sh'.pendingMessages.lookup key = some i ∨ (∃ c q, pc = .call c q ∧ c.messageId = key) ∨
      pc.lookup = some key ∨ ∃ q, pc = .onConnectionFailure q := by
  cases h with
  | registers c =>
    by_cases hkey : key = c.messageId
    · exact .inr (.inl ⟨c, _, rfl, hkey.symm⟩)
    · exact .inl (sh.lookup_register.mpr (.inr ⟨hkey, hlookup⟩))
  | cleansUp c | timesOut c | throws c =>
    by_cases hkey : key = c.messageId
    · exact .inr (.inl ⟨c, _, rfl, hkey.symm⟩)
    · exact .inl (sh.lookup_remove.mpr ⟨hkey, hlookup⟩)
  | ackFinds header ack messageId hheader =>
    by_cases hkey : key = messageId
    · exact .inr (.inr (.inl (hkey ▸ hheader)))
    · exact .inl (sh.lookup_remove.mpr ⟨hkey, hlookup⟩)
  | ackSets => exact .inl (by rwa [Shared.trySet_pendingMessages])
  | failureSets | clears => exact .inr (.inr (.inr ⟨_, rfl⟩))
  | _ => exact .inl hlookup

/-- A task that is completed stays so. -/
lemma tasks_mono (h : Move cfg j sh pc sh' pc') {x : Completion} (hk : sh.tasks k = some x) :
    sh'.tasks k = some x := by
  cases h with
  | ackSets task ack => exact Shared.tasks_trySet_of_some _ _ _ hk
  | failureSets e task => exact Shared.tasks_trySet_of_some _ _ _ hk
  | _ => exact hk

/-- Tasks are completed by the callbacks. -/
lemma tasks_or (h : Move cfg j sh pc sh' pc') {x : Completion} (hk : sh'.tasks k = some x) :
    sh.tasks k = some x ∨ (∃ ack, pc = .onAck (.trySetResult k ack) ∧ x = .result ack) ∨
      ∃ q, pc = .onConnectionFailure q := by
  cases h with
  | ackSets task ack =>
    rcases Shared.tasks_trySet_cases _ _ _ hk with hk | ⟨rfl, rfl⟩
    · exact .inl hk
    · exact .inr (.inl ⟨ack, rfl, rfl⟩)
  | failureSets => exact .inr (.inr ⟨_, rfl⟩)
  | _ => exact .inl hk

end Move

section Moves

variable {cfg : Config} {s : Wrapper} {i j k : ℕ} {sh' : Shared} {pc pc' : Pc}

/-- Two calls do not have the same identifier. -/
lemma Ledger.eq_of_lookup {sh : Shared} (h : Ledger sh) {c : Call} {q : CallPc}
    (hj : CallPhase sh j c q) (hlookup : sh.pendingMessages.lookup c.messageId = some i) :
    i = j := by
  obtain ⟨c', hsent, hid⟩ := h.entries _ _ hlookup
  exact h.distinct i j c' c (Phase.call_of_sent hsent) hj.call hid

/-- A move leaves what other threads know. -/
lemma Move.frame (hm : Move cfg j s.shared pc sh' pc') (h : Answers s)
    (hpc : s.threads[j]? = some pc) (hheard : Heard s j pc) (hne : i ≠ j) :
    Frame i s.shared sh' := by
  have hknows := h.knows.at hpc
  obtain ⟨newer, hnewer, hlog⟩ := hm.log_eq
  have hphase : phase i sh'.log = phase i s.shared.log := by
    rw [hlog]
    exact phase_append fun e he => ⟨(hnewer e he).1 ▸ hne.symm, (hnewer e he).2⟩
  have hextends := hm.extends_log
  refine ⟨.inl hphase, fun k c => ⟨fun hk => hextends.phase_eq hk rfl, fun j' ack hk =>
    hextends.phase_eq hk rfl⟩, fun k c ack hk => ?_, ?_, fun htask => ?_, fun key hkey => ?_,
    fun c hopened hlookup => ?_⟩
  · rw [hlog] at hk
    exact (phase_append_eq_answered fun e he => (hnewer e he).2).mp hk
  · exact ⟨newer, fun e he => (hnewer e he).1 ▸ hne.symm, hlog⟩
  · obtain ⟨x, hx⟩ := Option.isSome_iff_exists.mp htask
    rw [hm.tasks_mono hx]
    rfl
  · rcases hm.lookup_pendingMessages hkey with hold | ⟨_, -, -, -, -, heq⟩
    · exact hold
    · exact absurd heq hne
  · rcases hm.lookup_or hlookup with hkept | ⟨c', q, rfl, hid⟩ | hkey | ⟨q, rfl⟩
    · exact hkept
    · exact absurd (h.ledger.eq_of_lookup hknows.2 (hid ▸ hlookup)) hne
    · have hclosed := (hheard.untaken _ hkey i hlookup).1
      rw [hopened] at hclosed
      cases hclosed
    · exact hknows.elim

/-- A call whose task is complete has missed its answer or was answered in time. -/
lemma Ledger.settled {sh : Shared} (h : Ledger sh) {c : Call}
    (hcall : (phase i sh.log).call = some c) (htask : (sh.tasks i).isSome = true) :
    phase i sh.log = .missed c ∨ (phase i sh.log).IsAnswered c := by
  obtain ⟨x, hx⟩ := Option.isSome_iff_exists.mp htask
  rcases h.tasks i x hx with ⟨c', hphase⟩ | ⟨c', j, ack, hphase, -⟩
  · rw [hphase] at hcall ⊢
    cases hcall
    exact .inl rfl
  · rw [hphase] at hcall ⊢
    cases hcall
    exact .inr ⟨j, ack, rfl⟩

/-- A completed task of a request that was answered in time is completed with the answer. -/
lemma Ledger.task_eq {sh : Shared} (h : Ledger sh) {c : Call} {ack : Ack}
    (hanswered : phase i sh.log = .answered c j ack) (htask : (sh.tasks i).isSome = true) :
    sh.tasks i = some (.result ack) := by
  obtain ⟨x, hx⟩ := Option.isSome_iff_exists.mp htask
  rcases h.tasks i x hx with ⟨c', hmissed⟩ | ⟨c', j', ack', hanswered', rfl⟩
  · cases hanswered.symm.trans hmissed
  · cases hanswered.symm.trans hanswered'
    exact hx

/-- A call whose task is not completed with its answer has missed it. -/
lemma Ledger.missed {sh : Shared} (h : Ledger sh) {c : Call}
    (hphase : phase i sh.log = .missed c ∨ (phase i sh.log).IsAnswered c) {x : Completion}
    (hx : sh.tasks i = some x)
    (hne : ∀ j ack, phase i sh.log = .answered c j ack → x ≠ .result ack) :
    phase i sh.log = .missed c := by
  refine hphase.resolve_right ?_
  rintro ⟨j, ack, hanswered⟩
  have htask : sh.tasks i = some (.result ack) := h.task_eq hanswered (by rw [hx]; rfl)
  exact hne j ack hanswered (Option.some.inj (hx.symm.trans htask))

/-- A move tells the phase of its own thread. -/
lemma Move.knowsPhase (hm : Move cfg i s.shared pc sh' pc') (h : Answers s)
    (hpc : s.threads[i]? = some pc) (hheard : Heard s i pc) : KnowsPhase sh' i (some pc') := by
  have hknows := h.knows.at hpc
  have hL := h.ledger
  have hextends := hm.extends_log
  cases hm with
  | sendFails c e =>
    obtain ⟨-, hphase, -⟩ := hknows
    simp [KnowsPhase, phase, hphase, Phase.next, Phase.isOpened]
  | hands c tested shown stamp binary =>
    obtain ⟨hlog, hphase, hentry⟩ := hknows
    refine ⟨unended_cons rfl hlog, .inl ?_, hentry⟩
    simp [phase, hphase, Phase.next]
  | duplicate c hmem e =>
    obtain ⟨-, hphase, hentry⟩ := hknows
    obtain ⟨k, hk⟩ := Option.isSome_iff_exists.mp (AList.lookup_isSome.mpr hmem)
    obtain rfl := hL.eq_of_lookup (q := .tryAdd) ⟨hphase, hentry⟩ hk
    exact absurd hk (hentry _)
  | registers c hmem =>
    obtain ⟨hlog, hphase, -⟩ := hknows
    refine ⟨unended_cons rfl hlog, hphase.imp (fun hopened => ?_) hextends.isAnswered⟩
    refine ⟨?_, AList.lookup_insert _⟩
    simp [phase, hopened, Phase.next]
  | delayThrows c hdelay e =>
    have hle := hL.timeout i c hknows.2.call
    exact absurd hdelay (Int64.not_lt.mpr hle)
  | delays c => exact hknows
  | timerElapses c =>
    obtain ⟨hlog, hphase⟩ := hknows
    refine ⟨unended_cons rfl hlog, hphase.imp (fun hopened => ?_) hextends.isAnswered⟩
    simp [phase, hopened.1, Phase.next]
  | completedBefore c elapsed htask =>
    exact ⟨hknows.1, htask, hL.settled hknows.2.call htask⟩
  | elapsedBefore c htask =>
    refine ⟨hknows.1, hknows.2.resolve_right ?_⟩
    rintro ⟨j, ack, hanswered⟩
    have hnone := hheard.inTime rfl htask
    rw [hanswered] at hnone
    cases hnone
  | waits c => exact hknows
  | waitEnds c htask => exact ⟨hknows.1, htask, hL.settled hknows.2.call htask⟩
  | waitElapses c htask =>
    obtain ⟨hlog, hphase⟩ := hknows
    refine ⟨unended_cons rfl hlog, ?_⟩
    rcases hphase with ⟨hopened, -⟩ | ⟨j, ack, hanswered⟩
    · simp [CallPhase, phase, hopened, Phase.next]
    · have hnone := hheard.inTime rfl htask
      rw [hanswered] at hnone
      cases hnone
  | cleansUp c =>
    obtain ⟨hlog, htask, hphase⟩ := hknows
    refine ⟨unended_cons rfl hlog, htask, hphase.imp (fun hmissed => ?_) hextends.isAnswered⟩
    exact hextends.phase_eq hmissed rfl
  | timesOut c e =>
    obtain ⟨hlog, hmissed⟩ := hknows
    exact ⟨unended_cons rfl hlog, hextends.phase_eq hmissed rfl⟩
  | returns c ack htask haccepts =>
    obtain ⟨hlog, -, hphase⟩ := hknows
    rcases hphase with hmissed | ⟨j, ack', hanswered⟩
    · simp [KnowsPhase, phase, hmissed, Phase.next, Phase.isOpened]
    · have hresult := hL.task_eq hanswered (by rw [htask]; rfl)
      obtain rfl : ack = ack' := by
        cases htask.symm.trans hresult
        rfl
      refine ⟨by simp [phase, hanswered, Phase.next, Phase.isOpened], fun c' j' ack' hphase => ?_⟩
      simp only [Shared.record, phase, hanswered, Phase.next] at hphase
      cases hphase
      refine ⟨List.mem_cons_self, fun e he hended => ?_⟩
      rcases List.mem_cons.mp he with rfl | he
      · rfl
      · exact absurd hended (hlog e he)
  | castThrows c ack htask haccepts e =>
    refine ⟨hknows.1, hL.missed hknows.2.2 htask ?_⟩
    rintro j ack' hanswered heq
    cases heq
    rw [accepts_of_phase hanswered] at haccepts
    cases haccepts
  | rethrows c e htask =>
    refine ⟨hknows.1, hL.missed hknows.2.2 htask ?_⟩
    rintro j ack hanswered heq
    cases heq
  | throws c e =>
    have hmissed : phase i s.shared.log = .missed c := hknows.2
    simp [KnowsPhase, phase, hmissed, Phase.next, Phase.isOpened]
  | ackThrows header ack hheader e =>
    have habsent : phase i s.shared.log = .absent := hknows.1
    simp [KnowsPhase, phase, habsent, Phase.next, Phase.isOpened]
  | ackFinds header ack messageId hheader task hlookup =>
    obtain ⟨habsent, hlog, hanswers⟩ := hknows
    refine ⟨habsent, hlog, ?_⟩
    obtain ⟨c, hsent, -⟩ := hL.entries _ _ hlookup
    obtain ⟨hclosed, hanswer⟩ := hheard.untaken messageId hheader task hlookup
    cases hphase : phase task s.shared.log with
    | absent | begun =>
      rw [hphase] at hsent
      cases hsent
    | opened =>
      rw [hphase] at hclosed
      cases hclosed
    | missed c' => exact ⟨c', .inl hphase⟩
    | answered c' j ack' =>
      rw [hphase] at hanswer
      obtain rfl := hanswer j rfl
      obtain ⟨rfl, -⟩ := hanswers task c' ack' hphase
      exact ⟨c', .inr hphase⟩
  | ackMisses =>
    have habsent : phase i s.shared.log = .absent := hknows.1
    simp [KnowsPhase, habsent, Phase.isOpened]
  | ackSets task ack =>
    have habsent : phase i s.shared.log = .absent := hknows.1
    simp [KnowsPhase, habsent, Phase.isOpened]
  | failureStarts | failureVisits | failureSets | failureEnds | clears => exact hknows.elim

/-- A move keeps what the phases tell of the shared state. -/
lemma Move.ledger (hm : Move cfg i s.shared pc sh' pc') (h : Answers s)
    (hpc : s.threads[i]? = some pc) : Ledger sh' := by
  have hknows := h.knows.at hpc
  have hL := h.ledger
  obtain ⟨newer, hnewer, hlog⟩ := hm.log_eq
  have hcall : ∀ k, (phase k sh'.log).call = (phase k s.shared.log).call := by
    intro k
    rw [hlog]
    exact call_phase_append fun e he => (hnewer e he).2
  have hextends := hm.extends_log
  refine ⟨fun k x hx => ?_, fun key k hkey => ?_, fun k k' c c' hk hk' => ?_, fun k c hk => ?_⟩
  · rcases hm.tasks_or hx with hx | ⟨ack, rfl, rfl⟩ | ⟨q, rfl⟩
    · rcases hL.tasks k x hx with ⟨c, hmissed⟩ | ⟨c, j, ack, hanswered, rfl⟩
      · exact .inl ⟨c, hextends.phase_eq hmissed rfl⟩
      · exact .inr ⟨c, j, ack, hextends.phase_eq hanswered rfl, rfl⟩
    · obtain ⟨-, -, c, hmissed | hanswered⟩ := hknows
      · exact .inl ⟨c, hextends.phase_eq hmissed rfl⟩
      · exact .inr ⟨c, i, ack, hextends.phase_eq hanswered rfl, rfl⟩
    · exact hknows.elim
  · rcases hm.lookup_pendingMessages hkey with hold | ⟨c, rfl, rfl, rfl, rfl, rfl⟩
    · obtain ⟨c, hsent, hid⟩ := hL.entries key k hold
      exact ⟨c, hextends.sent_phase hsent, hid⟩
    · refine ⟨c, hextends.sent_phase ?_, rfl⟩
      obtain ⟨-, hopened | ⟨j, ack, hanswered⟩, -⟩ := hknows
      · rw [hopened]
        rfl
      · rw [hanswered]
        rfl
  · rw [hcall] at hk hk'
    exact hL.distinct k k' c c' hk hk'
  · rw [hcall] at hk
    exact hL.timeout k c hk

/-- A call removes its entry only once its task is complete or it has missed its answer. -/
lemma Move.entry_of_call {sh : Shared} {c : Call} {q : CallPc}
    (hm : Move cfg i sh (.call c q) sh' pc') (hq : CallPhase sh i c q)
    (hlookup : sh.pendingMessages.lookup c.messageId = some i) :
    sh'.pendingMessages.lookup c.messageId = some i ∨ (sh.tasks i).isSome = true ∨
      phase i sh.log = .missed c := by
  cases hm with
  | registers => exact .inl (AList.lookup_insert _)
  | cleansUp => exact .inr (.inl hq.1)
  | timesOut | throws => exact .inr (.inr hq)
  | _ => exact .inl hlookup

section Due

variable {c : Call} {ack : Ack}

/-- The callback completes the task. -/
lemma Move.due_of_trySetResult
    (hm : Move cfg j s.shared (.onAck (.trySetResult i ack)) sh' pc') (h : Answers s)
    (hanswered : phase i s.shared.log = .answered c j ack) :
    sh'.tasks i = some (.result ack) := by
  cases hm with
  | ackSets =>
    cases htask : s.shared.tasks i with
    | none => exact Shared.tasks_trySet_of_none _ _ _ htask
    | some x =>
      have hx := h.ledger.task_eq hanswered (by rw [htask]; rfl)
      exact Shared.tasks_trySet_of_some _ _ _ hx

/-- The callback looks the request up and finds it. -/
lemma Move.due_of_tryRemove {header : MessageHeader}
    (hm : Move cfg j s.shared (.onAck (.tryRemove header ack)) sh' pc')
    (hid : header.messageId = some c.messageId)
    (hlookup : s.shared.pendingMessages.lookup c.messageId = some i) :
    pc' = .onAck (.trySetResult i ack) := by
  cases hm with
  | ackThrows _ _ hheader => cases hid.symm.trans hheader
  | ackFinds _ _ messageId hheader task htask =>
    cases hid.symm.trans hheader
    cases hlookup.symm.trans htask
    rfl
  | ackMisses _ _ messageId hheader hnone =>
    cases hid.symm.trans hheader
    cases hlookup.symm.trans hnone

/-- The request registers itself. -/
lemma Move.due_of_tryAdd (hm : Move cfg i s.shared (.call c .tryAdd) sh' pc') (h : Answers s)
    (hpc : s.threads[i]? = some (.call c .tryAdd)) :
    sh'.pendingMessages.lookup c.messageId = some i := by
  have hknows := h.knows.at hpc
  cases hm with
  | duplicate _ hmem =>
    obtain ⟨k, hk⟩ := Option.isSome_iff_exists.mp (AList.lookup_isSome.mpr hmem)
    obtain rfl := h.ledger.eq_of_lookup hknows.2 hk
    exact absurd hk (hknows.2.2 _)
  | registers => exact AList.lookup_insert _

/-- The entry of a request that was answered in time stays where it is when another thread than
the callback moves, or the task of the request is complete. -/
lemma Move.due_of_entry (hm : Move cfg k s.shared pc sh' pc') (h : Answers s)
    (hpc : s.threads[k]? = some pc) (hheard : Heard s k pc) (hjk : j ≠ k)
    (hanswered : phase i s.shared.log = .answered c j ack)
    (hlookup : s.shared.pendingMessages.lookup c.messageId = some i) :
    sh'.pendingMessages.lookup c.messageId = some i ∨ (s.shared.tasks i).isSome = true := by
  have hknows := h.knows.at hpc
  rcases hm.lookup_or hlookup with hkept | ⟨c', q, rfl, hid⟩ | hkey | ⟨q, rfl⟩
  · exact .inl hkept
  · obtain rfl := h.ledger.eq_of_lookup hknows.2 (hid ▸ hlookup)
    rw [← hid] at hlookup ⊢
    rcases hm.entry_of_call hknows.2 hlookup with hkept | htask | hmissed
    · exact .inl hkept
    · exact .inr htask
    · cases hanswered.symm.trans hmissed
  · have hanswer := (hheard.untaken _ hkey i hlookup).2 j (by rw [hanswered]; rfl)
    exact absurd hanswer hjk
  · exact hknows.elim

/-- A move keeps every answer on its way. -/
lemma Move.due (hm : Move cfg k s.shared pc sh' pc') (h : Answers s)
    (hpc : s.threads[k]? = some pc) (hheard : Heard s k pc)
    (hanswered : phase i s.shared.log = .answered c j ack) :
    Due ⟨sh', s.threads.set k pc'⟩ i c j ack := by
  have hother : ∀ {m q}, m ≠ k → s.threads[m]? = q → (s.threads.set k pc')[m]? = q := by
    intro m q hmk hq
    rwa [List.getElem?_set_ne (Ne.symm hmk)]
  rcases h.due i c j ack hanswered with htask | hsets | ⟨header, hfinds, hentry⟩
  · exact .inl (hm.tasks_mono htask)
  · by_cases hjk : j = k
    · subst hjk
      cases hpc.symm.trans hsets
      exact .inl (hm.due_of_trySetResult h hanswered)
    · exact .inr (.inl (hother hjk hsets))
  · by_cases hjk : j = k
    · subst hjk
      cases hpc.symm.trans hfinds
      have hid : header.messageId = some c.messageId :=
        ((h.knows.at hpc).2.2 i c ack hanswered).2
      have hlookup : s.shared.pendingMessages.lookup c.messageId = some i := by
        refine hentry.resolve_left fun hunregistered => ?_
        have hne := hheard.registered (by rw [Pc.lookup, hid]; rfl) i (by rw [hunregistered]; rfl)
        rw [hanswered] at hne
        exact hne rfl
      refine .inr (.inl ?_)
      rw [← hm.due_of_tryRemove hid hlookup]
      exact Pool.at_set hpc
    · rcases hentry with hunregistered | hlookup
      · by_cases hik : i = k
        · subst hik
          cases hpc.symm.trans hunregistered
          exact .inr (.inr ⟨header, hother hjk hfinds, .inr (hm.due_of_tryAdd h hpc)⟩)
        · exact .inr (.inr ⟨header, hother hjk hfinds, .inl (hother hik hunregistered)⟩)
      · rcases hm.due_of_entry h hpc hheard hjk hanswered hlookup with hkept | htask
        · exact .inr (.inr ⟨header, hother hjk hfinds, .inr hkept⟩)
        · exact .inl (hm.tasks_mono (h.ledger.task_eq hanswered htask))

end Due

end Moves

/-! ## Starts -/

/-- An event of another thread leaves what a thread knows. -/
lemma Frame.record {i : ℕ} {sh : Shared} {e : Event} (hthread : e.thread ≠ i) :
    Frame i sh (sh.record e) := by
  have hextends : Extends e.thread sh.log (sh.record e).log := (Extends.refl _ _).cons rfl
  refine ⟨?_, fun k c => ⟨fun hk => hextends.phase_eq hk rfl, fun j ack hk =>
    hextends.phase_eq hk rfl⟩, fun k c ack hk => ?_, ⟨[e], by simpa using hthread, rfl⟩, id,
    fun key => id, fun c _ => id⟩
  · rcases Phase.next_cases i (phase i sh.log) e with heq | ⟨_, -, rfl, -⟩ | ⟨_, _, -, rfl, -⟩ |
      ⟨_, -, rfl, -⟩ | ⟨c, j, header, ack, hopened, -, -, -, heq⟩
    · exact .inl heq
    · exact absurd rfl hthread
    · exact absurd rfl hthread
    · exact absurd rfl hthread
    · exact .inr ⟨c, hopened, j, ack, heq⟩
  · rcases Phase.next_eq_answered_iff.mp hk with hold | ⟨header, -, rfl, -⟩
    · exact hold
    · exact absurd rfl hthread

section Starts

variable {cfg : Config} {s : Wrapper} {i j : ℕ} {sh' : Shared} {l : Label} {pc' : Pc}

/-- A call has the arguments that were checked. -/
lemma Request.start_eq_ok {request : Request} {newGuid : String} {c : Call}
    (h : request.start newGuid = .ok c) : c = ⟨request, newGuid⟩ := by
  unfold start at h
  split_ifs at h
  cases h
  rfl

/-- A start leaves what other threads know. -/
lemma Start.frame {n : ℕ} {sh : Shared} (hstart : Start n sh l sh' pc') (hne : i ≠ n) :
    Frame i sh sh' := by
  cases hstart with
  | rejected | called | delivered => exact Frame.record hne.symm
  | failed =>
    exact ⟨.inl rfl, fun k c => ⟨id, fun j ack => id⟩, fun k c ack => id, ⟨[], by simp, rfl⟩, id,
      fun key => id, fun c _ => id⟩

/-- A start tells the phase of its own thread. -/
lemma Start.knowsPhase {n : ℕ} {sh : Shared} (hstart : Start n sh l sh' pc') (hL : Ledger sh)
    (hn : KnowsPhase sh n none) (hl : ∀ cause, l ≠ .fail cause) : KnowsPhase sh' n (some pc') := by
  obtain ⟨habsent, hlog, hanswers⟩ := hn
  cases hstart with
  | rejected => simp [KnowsPhase, phase, habsent, Phase.next, Phase.isOpened]
  | called request newGuid c =>
    refine ⟨unended_cons rfl hlog, ?_, fun key hkey => ?_⟩
    · simp [phase, habsent, Phase.next]
    · obtain ⟨c', hsent, -⟩ := hL.entries key n hkey
      rw [habsent] at hsent
      cases hsent
  | delivered header ack =>
    refine ⟨?_, unended_cons rfl hlog, fun k c ack' hk => ?_⟩
    · simp [phase, habsent, Phase.next]
    · rcases Phase.next_eq_answered_iff.mp hk with hold | ⟨_, -, hevent, hid, -⟩
      · have hanswer := hanswers k
        rw [hold] at hanswer
        exact absurd rfl hanswer
      · cases hevent
        exact ⟨rfl, hid⟩
  | failed cause => exact absurd rfl (hl cause)

/-- The identifier and the timeout of a call that starts are those of its request. -/
lemma Ledger.record {n : ℕ} {sh : Shared} (hL : Ledger sh) {e : Event} (hthread : e.thread = n)
    (hcall : ∀ c, e = .called n c → c.request.timeout.totalMilliseconds ≤ maxDelay ∧
      ∀ e' ∈ sh.log, e'.callId ≠ some c.messageId) : Ledger (sh.record e) := by
  have hold : ∀ k c, (phase k (sh.record e).log).call = some c →
      (phase k sh.log).call = some c ∨ k = n ∧ e = .called n c := by
    intro k c hk
    rcases Phase.call_next (i := k) (e := e) (p := phase k sh.log) with heq | ⟨c', rfl, heq⟩
    · exact .inl (heq.symm.trans hk)
    · cases heq.symm.trans hk
      exact .inr ⟨hthread, by rw [← hthread]; rfl⟩
  have hnew : ∀ k c c', (phase k sh.log).call = some c → e = .called n c' →
      c.messageId ≠ c'.messageId := by
    rintro k c c' hk rfl hid
    exact (hcall c' rfl).2 _ (called_of_phase hk) (congrArg some hid)
  refine ⟨fun k x hx => ?_, fun key k hkey => ?_, fun k k' c c' hk hk' hid => ?_,
    fun k c hk => ?_⟩
  · rcases hL.tasks k x hx with ⟨c, hmissed⟩ | ⟨c, j, ack, hanswered, rfl⟩
    · refine .inl ⟨c, ?_⟩
      simp [phase, hmissed, Phase.next]
    · refine .inr ⟨c, j, ack, ?_, rfl⟩
      simp [phase, hanswered, Phase.next]
  · obtain ⟨c, hsent, hid⟩ := hL.entries key k hkey
    exact ⟨c, Phase.sent_next hsent, hid⟩
  · rcases hold k c hk with hk | ⟨rfl, heq⟩ <;> rcases hold k' c' hk' with hk' | ⟨rfl, heq'⟩
    · exact hL.distinct k k' c c' hk hk' hid
    · exact absurd hid (hnew k c c' hk heq')
    · exact absurd hid.symm (hnew k' c' c hk' heq)
    · rfl
  · rcases hold k c hk with hk | ⟨rfl, heq⟩
    · exact hL.timeout k c hk
    · exact (hcall c heq).1

/-- A start keeps what the phases tell of the shared state. -/
lemma Start.ledger (hstart : Start s.threads.length s.shared l sh' pc') (hL : Ledger s.shared)
    (hseparate : Separate s l) (hheard : AllHeard s l) : Ledger sh' := by
  cases hstart with
  | rejected request newGuid e => exact hL.record rfl fun c heq => by cases heq
  | called request newGuid c hok =>
    refine hL.record rfl fun c' heq => ?_
    cases heq
    cases Request.start_eq_ok hok
    exact ⟨hheard.1 request rfl, hseparate.2⟩
  | delivered header ack => exact hL.record rfl fun c heq => by cases heq
  | failed => exact hL

/-- An answer that was on its way is so when another thread starts. -/
lemma Due.spawn {c : Call} {ack : Ack} (h : Due s i c j ack) (htasks : sh'.tasks = s.shared.tasks)
    (hentries : sh'.pendingMessages = s.shared.pendingMessages) :
    Due (s.spawn sh' pc') i c j ack := by
  rcases h with htask | hsets | ⟨header, hfinds, hentry⟩
  · exact .inl ((congrFun htasks i).trans htask)
  · exact .inr (.inl (Pool.at_spawn hsets))
  · refine .inr (.inr ⟨header, Pool.at_spawn hfinds, hentry.imp Pool.at_spawn fun hlookup => ?_⟩)
    exact (congrArg (AList.lookup c.messageId) hentries).trans hlookup

/-- A start keeps every answer on its way, and a call of the listener sends one on it. -/
lemma Start.due (hstart : Start s.threads.length s.shared l sh' pc') (h : Answers s) {c : Call}
    {ack : Ack} (hanswered : phase i sh'.log = .answered c j ack) :
    Due (s.spawn sh' pc') i c j ack := by
  cases hstart with
  | rejected | called =>
    have hold := (Phase.next_eq_answered (fun j header ack heq => by cases heq)).mp hanswered
    exact (h.due i c j ack hold).spawn rfl rfl
  | delivered header ack' =>
    rcases Phase.next_eq_answered_iff.mp hanswered with hold | ⟨_, hopened, hevent, -⟩
    · exact (h.due i c j ack hold).spawn rfl rfl
    · cases hevent
      refine .inr (.inr ⟨header, List.getElem?_concat_length, ?_⟩)
      exact ((h.knows i).opened hopened).imp_left Pool.at_spawn
  | failed => exact (h.due i c j ack hanswered).spawn rfl rfl

end Starts

/-! ## Runs -/

/-- Separate requests whose acknowledgements are all heard. -/
abbrev Attentive : Guard Wrapper Label := fun s l => Separate s l ∧ AllHeard s l

variable {cfg : Config} {s s' : Wrapper} {l : Label}

/-- A step keeps the answers on their way. -/
lemma answers_step (h : Answers s) (hok : Attentive s l) (hstep : step cfg s l = some s') :
    Answers s' := by
  obtain ⟨hseparate, hheard⟩ := hok
  rcases step_cases hstep with ⟨sh', pc', -, hstart, rfl⟩ | ⟨i, pc, sh', pc', hi, hpc, hm, rfl⟩
  · have hl : ∀ cause, l ≠ .fail cause := by
      rintro cause rfl
      exact hseparate
    refine ⟨hstart.ledger h.ledger hseparate hheard, ?_, fun i c j ack => hstart.due h⟩
    exact h.knows.spawn (hstart.knowsPhase h.ledger h.knows.fresh hl)
      fun j hj => (hstart.frame hj).knowsPhase
  · have hpoint : Heard s i pc := hheard.2 i hi pc hpc
    obtain ⟨newer, hnewer, hlog⟩ := hm.log_eq
    refine ⟨hm.ledger h hpc, ?_, fun k c j ack hanswered => ?_⟩
    · exact h.knows.set hpc (hm.knowsPhase h hpc hpoint)
        fun j hj => (hm.frame h hpc hpoint hj).knowsPhase
    · refine hm.due h hpc hpoint ?_
      refine (phase_append_eq_answered fun e he => (hnewer e he).2).mp ?_
      rw [← hlog]
      exact hanswered

/-- In every run of separate requests whose acknowledgements are all heard, the answers are on
their way. -/
theorem answers (h : (system cfg).Reachable Attentive s) : Answers s := by
  refine h.invariant ?_ fun s l s' hs hok hstep => answers_step hs hok hstep
  refine ⟨⟨?_, ?_, ?_, ?_⟩, fun i => ?_, ?_⟩
  · rintro k x ⟨⟩
  · rintro key k ⟨⟩
  · rintro k k' c c' ⟨⟩
  · rintro k c ⟨⟩
  · refine ⟨rfl, fun e he => ?_, fun k hk => ?_⟩
    · cases he
    · cases hk
  · rintro i c j ack ⟨⟩

end SyncGDSClient

end Gds
