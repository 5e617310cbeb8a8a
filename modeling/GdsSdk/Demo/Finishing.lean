import GdsSdk.Demo.Acknowledgements
import GdsSdk.Demo.EndToEnd
import GdsSdk.Websocket.Finishing

/-!
# Every request comes to its end

A request waits for its acknowledgement and for nothing else, and its timer ends the wait.  So every
request comes to its end within nine steps of its own, whatever comes of its acknowledgement, with
one outcome: what it returns or what it throws.  A callback of a failure has a loop of which nobody
says how often it comes to an entry; with every entry it takes two steps more.

`SyncGDSClient.requestsFinish` says this of the wrapper and `Session.session_finishes` of the
wrapper with its client.
-/

namespace Gds

open Transition

namespace SyncGDSClient

/-! ## What a request waits for -/

/-- A request that goes on to its result has a task that is complete. -/
def KnowsTask (sh : Shared) (i : ℕ) : Option Pc → Prop
  | some (.call _ (.tryRemove false)) | some (.call _ .result) => (sh.tasks i).isSome = true
  | _ => True

/-- How many outcomes a thread has had. -/
def outcomes (i : ℕ) (log : List Event) : ℕ := log.countP fun e => e.ended = some i

/-- A request in progress has had no outcome, and one that has come to its end has had one. -/
def KnowsOutcome (sh : Shared) (i : ℕ) : Option Pc → Prop
  | none => history i sh.log = []
  | some (.call _ _) => outcomes i sh.log = 0
  | some (.onAck _) | some (.onConnectionFailure _) => ∀ c, .called i c ∉ sh.log
  | some .done => ∀ c, .called i c ∈ sh.log → outcomes i sh.log = 1

section Outcomes

variable {i j : ℕ} {log log' : List Event}

lemma outcomes_cons (e : Event) :
    outcomes i (e :: log) = outcomes i log + (decide (e.ended = some i)).toNat := by
  unfold outcomes
  rw [List.countP_cons]
  cases decide (e.ended = some i) <;> rfl

/-- An outcome is an event of its thread. -/
lemma Event.thread_of_ended {e : Event} (h : e.ended = some i) : e.thread = i := by
  cases e <;> cases h <;> rfl

/-- A thread without history has had no outcome and was not called. -/
lemma outcomes_of_history (h : history i log = []) :
    outcomes i log = 0 ∧ ∀ c, .called i c ∉ log := by
  have hnone : ∀ e ∈ log, e.thread ≠ i := by
    intro e he heq
    have hmem := (mem_history heq).mpr he
    rw [h] at hmem
    cases hmem
  refine ⟨?_, fun c hc => hnone _ hc rfl⟩
  refine List.countP_eq_zero.mpr fun e he hended => ?_
  exact hnone e he (Event.thread_of_ended (of_decide_eq_true hended))

/-- The outcomes of another thread do not change. -/
lemma Extends.outcomes_eq (h : Extends j log log') (hne : i ≠ j) :
    outcomes i log' = outcomes i log := by
  obtain ⟨newer, hnewer, rfl⟩ := h
  have hnone : newer.countP (fun e => e.ended = some i) = 0 := by
    refine List.countP_eq_zero.mpr fun e he hended => hne ?_
    rw [← Event.thread_of_ended (of_decide_eq_true hended), hnewer e he]
  rw [outcomes, List.countP_append, hnone, Nat.zero_add]
  rfl

/-- The calls of another thread do not change. -/
lemma Extends.called_iff (h : Extends j log log') (hne : i ≠ j) (c : Call) :
    .called i c ∈ log' ↔ .called i c ∈ log := by
  constructor
  · intro hc
    exact (h.mem_or hc).resolve_right hne
  · exact h.mem

end Outcomes

section Knowledge

variable {cfg : Config} {n i j : ℕ} {sh sh' : Shared} {l : Label} {pc pc' : Pc}

/-- What is known of the task of another thread. -/
lemma KnowsTask.mono {q : Option Pc} (h : KnowsTask sh i q)
    (htasks : ∀ x, sh.tasks i = some x → sh'.tasks i = some x) : KnowsTask sh' i q := by
  have hsome : (sh.tasks i).isSome = true → (sh'.tasks i).isSome = true := by
    intro htask
    obtain ⟨x, hx⟩ := Option.isSome_iff_exists.mp htask
    rw [htasks x hx]
    rfl
  unfold KnowsTask at h ⊢
  split
  · exact hsome h
  · exact hsome h
  · trivial

/-- What is known of the outcomes of another thread. -/
lemma KnowsOutcome.mono {q : Option Pc} (h : KnowsOutcome sh i q)
    (hlog : Extends j sh.log sh'.log) (hne : i ≠ j) : KnowsOutcome sh' i q := by
  rcases q with _ | _ | _ | _ | _
  · exact (hlog.history_eq hne).trans h
  · exact (hlog.outcomes_eq hne).trans h
  · exact fun c hc => h c ((hlog.called_iff hne c).mp hc)
  · exact fun c hc => h c ((hlog.called_iff hne c).mp hc)
  · exact fun c hc => (hlog.outcomes_eq hne).trans (h c ((hlog.called_iff hne c).mp hc))

/-- A thread that starts has had no outcome, unless its arguments were rejected. -/
lemma Start.knowsOutcome (h : Start n sh l sh' pc') (hn : history n sh.log = []) :
    KnowsOutcome sh' n (some pc') := by
  obtain ⟨hzero, hcalled⟩ := outcomes_of_history hn
  cases h with
  | rejected => exact fun c hc => absurd hc (by simpa using hcalled c)
  | called => exact (outcomes_cons _).trans (by simp [hzero, Event.ended])
  | delivered => exact fun c hc => absurd hc (by simpa using hcalled c)
  | failed => exact hcalled

namespace Move

/-- A request goes on to its result once its task is complete. -/
lemma knowsTask (h : Move cfg i sh pc sh' pc') (hpc : KnowsTask sh i (some pc)) :
    KnowsTask sh' i (some pc') := by
  cases h with
  | completedBefore _ _ htask | waitEnds _ htask => exact htask
  | cleansUp => exact hpc
  | _ => trivial

/-- A request comes to its end with one outcome. -/
lemma knowsOutcome (h : Move cfg i sh pc sh' pc') (hpc : KnowsOutcome sh i (some pc)) :
    KnowsOutcome sh' i (some pc') := by
  cases h with
  | sendFails | duplicate | returns =>
    have hzero : outcomes i sh.log = 0 := hpc
    exact fun c _ => (outcomes_cons _).trans (by simp [hzero, Event.ended])
  | throws c e =>
    have hzero : outcomes i sh.log = 0 := hpc
    intro c _
    simp [outcomes_cons, hzero, Event.ended]
  | hands | registers | timerElapses | waitElapses | cleansUp | timesOut =>
    have hzero : outcomes i sh.log = 0 := hpc
    exact (outcomes_cons _).trans (by simp [hzero, Event.ended])
  | delayThrows | delays | completedBefore | elapsedBefore | waits | waitEnds | castThrows
  | rethrows => exact hpc
  | ackThrows => exact fun c hc => absurd hc (by simpa using hpc c)
  | ackMisses | clears => exact fun c hc => absurd hc (hpc c)
  | ackSets =>
    intro c hc
    rw [Shared.trySet_log] at hc
    exact absurd hc (hpc c)
  | failureSets =>
    intro c hc
    rw [Shared.trySet_log] at hc
    exact absurd hc (hpc c)
  | _ => exact hpc

end Move

end Knowledge

section Reachable

variable {cfg : Config} {ok : Guard Wrapper Label} {s s' : Wrapper} {i : ℕ} {pc : Pc}

/-- What is known of the tasks in every run. -/
lemma knowsTask (h : (system cfg).Reachable ok s) : s.Numbered KnowsTask := by
  refine h.invariant (I := fun s => s.Numbered KnowsTask) (fun i => trivial) ?_
  intro s l s' hs _ hstep
  rcases step_cases hstep with ⟨sh', pc', -, hstart, rfl⟩ | ⟨i, pc, sh', pc', -, hpc, hm, rfl⟩
  · refine hs.spawn ?_ fun j hj hq => hq.mono fun x hx => ?_
    · cases hstart <;> trivial
    · rw [hstart.tasks_eq]
      exact hx
  · exact hs.set hpc (hm.knowsTask (hs.at hpc)) fun j _ hq => hq.mono fun x hx => hm.tasks_mono hx

/-- What is known of the outcomes in every run. -/
lemma knowsOutcome (h : (system cfg).Reachable ok s) : s.Numbered KnowsOutcome := by
  refine h.invariant (I := fun s => s.Numbered KnowsOutcome) (fun i => rfl) ?_
  intro s l s' hs _ hstep
  rcases step_cases hstep with ⟨sh', pc', -, hstart, rfl⟩ | ⟨i, pc, sh', pc', -, hpc, hm, rfl⟩
  · exact hs.spawn (hstart.knowsOutcome hs.fresh) fun j hj hq => hq.mono hstart.extends_log hj
  · exact hs.set hpc (hm.knowsOutcome (hs.at hpc)) fun j hj hq => hq.mono hm.extends_log hj

end Reachable

/-! ## The steps of the threads -/

/-- The steps of the threads themselves. -/
def OwnSteps : Guard Wrapper Label := fun _ l => l.thread ≠ none

/-- The steps of the threads themselves that are not the send of a request. -/
def OwnMoves : Guard Wrapper Label := fun _ l => Session.isOwn l = true

section Ranks

variable {cfg : Config} {i : ℕ} {sh sh' : Shared} {pc pc' : Pc}

/-- No thread has more than nine steps before it. -/
lemma Pc.rank_le (pc : Pc) : pc.rank ≤ 9 := by
  unfold rank
  split <;> omega

/-- A loop that comes to an entry is one step farther from its end. -/
lemma Move.rank_le (h : Move cfg i sh pc sh' pc') (hvisit : pc'.isVisiting = true) :
    pc'.rank ≤ pc.rank + 1 := by
  cases h with
  | failureVisits => exact Nat.le_refl _
  | _ => cases hvisit

end Ranks

section Steps

variable {cfg : Config} {ok : Guard Wrapper Label} {s s' : Wrapper} {l : Label} {i : ℕ} {pc : Pc}
  {sh' : Shared}

/-- A step lowers the rank of the thread that moves, unless its loop comes to an entry. -/
lemma rank_step {pc' : Pc} (h : step cfg s l = some s') (hl : l.thread = some i)
    (hm : Move cfg i s.shared pc sh' pc') (hpc' : s'.threads[i]? = some pc') :
    pc'.rank + 1 ≤ pc.rank + 2 * l.isVisit.toNat := by
  cases hvisit : l.isVisit with
  | false => exact hm.rank_lt (isVisiting_of_step h hl hvisit hpc')
  | true =>
    cases hvisiting : pc'.isVisiting with
    | false =>
      have hlt := hm.rank_lt hvisiting
      simp only [Bool.toNat_true]
      omega
    | true =>
      have hle := hm.rank_le hvisiting
      simp only [Bool.toNat_true]
      omega

/-- A step leaves the rank of a thread alone, or is one of its own. -/
lemma rankAt_step_add (hpc : s.threads[i]? = some pc) (h : step cfg s l = some s') :
    (∃ pc' : Pc, s'.threads[i]? = some pc') ∧
      s'.rankAt Pc.rank i + (decide (l.thread = some i)).toNat ≤
        s.rankAt Pc.rank i + 2 * (decide (l.isVisit = true ∧ l.thread = some i)).toNat := by
  rcases at_step hpc h with ⟨hl, hpc'⟩ | ⟨sh', pc', hl, hm, rfl⟩
  · rw [Pool.rankAt_eq hpc, Pool.rankAt_eq hpc', decide_eq_false hl]
    exact ⟨⟨pc, hpc'⟩, Nat.le_add_right _ _⟩
  · have hrank := rank_step h hl hm (Pool.at_set hpc)
    rw [Pool.rankAt_eq hpc, Pool.rankAt_set_self hpc]
    refine ⟨⟨pc', Pool.at_set hpc⟩, ?_⟩
    simpa [hl] using hrank

/-- A step of the threads themselves leaves less to do, unless a loop comes to an entry. -/
lemma work_step (hl : l.thread ≠ none) (h : step cfg s l = some s') :
    s'.work Pc.rank + 1 ≤ s.work Pc.rank + 2 * l.isVisit.toNat := by
  rcases step_cases h with ⟨sh', pc', hnone, -, rfl⟩ | ⟨i, pc, sh', pc', hi, hpc, hm, rfl⟩
  · exact absurd hnone hl
  · have hrank := rank_step h hi hm (Pool.at_set hpc)
    have hset : Pool.work Pc.rank ⟨sh', s.threads.set i pc'⟩ + pc.rank =
        s.work Pc.rank + pc'.rank := Pool.work_set_add hpc
    omega

/-- A thread whose program goes on takes a step. -/
lemma exists_step_of_isSome (cfg : Config) (l : Label) {f : Shared → Pc → Option (Shared × Pc)}
    (hpc : s.threads[i]? = some pc) (hstep : step cfg s l = s.move i f)
    (hnext : (f s.shared pc).isSome = true) :
    ∃ s', step cfg s l = some s' := by
  obtain ⟨⟨sh', pc'⟩, hnext⟩ := Option.isSome_iff_exists.mp hnext
  exact ⟨_, hstep.trans (Pool.move_eq_some.mpr ⟨pc, sh', pc', hpc, hnext, rfl⟩)⟩

/-- A request that has still to be sent can be. -/
lemma exists_send (cfg : Config) {c : Call} (hpc : s.threads[i]? = some (.call c .send)) :
    ∃ l s', l.thread = some i ∧ step cfg s l = some s' := by
  have hsend : (send cfg i s.shared .failed .failed ⟨"", 0, 0⟩ (.call c .send)).isSome = true := by
    simp only [send]
    split <;> rfl
  obtain ⟨s', hs'⟩ := exists_step_of_isSome cfg (.send i .failed .failed ⟨"", 0, 0⟩)
    (f := fun sh => send cfg i sh .failed .failed ⟨"", 0, 0⟩) hpc rfl hsend
  exact ⟨_, s', rfl, hs'⟩

/-- Every other thread that is not at its end can move. -/
lemma exists_own (h : (system cfg).Reachable ok s) (hpc : s.threads[i]? = some pc)
    (hdone : pc ≠ .done) (hsend : pc.isSend = false) :
    ∃ l s', Session.isOwn l = true ∧ l.thread = some i ∧ step cfg s l = some s' := by
  have hnext : (next i s.shared pc).isSome = true →
      ∃ l s', Session.isOwn l = true ∧ l.thread = some i ∧ step cfg s l = some s' := by
    intro hsome
    obtain ⟨s', hs'⟩ := exists_step_of_isSome cfg (.step i) hpc rfl hsome
    exact ⟨.step i, s', rfl, rfl, hs'⟩
  have htask : KnowsTask s.shared i (some pc) := (knowsTask h).at hpc
  cases pc with
  | call c q =>
    cases q with
    | send => cases hsend
    | wait =>
      -- the task is complete, or the timer elapses
      by_cases htask : (s.shared.tasks i).isSome = true
      · exact hnext (by simp [next, sendAsync, htask])
      · have helapse : (elapse i s.shared (.call c .wait)).isSome = true := by
          rw [elapse, if_neg htask]
          rfl
        obtain ⟨s', hs'⟩ := exists_step_of_isSome cfg (.elapse i) hpc rfl helapse
        exact ⟨.elapse i, s', rfl, rfl, hs'⟩
    | result =>
      refine hnext ?_
      obtain ⟨x, hx⟩ := Option.isSome_iff_exists.mp htask
      cases x with
      | exception e => simp [next, sendAsync, hx]
      | result ack =>
        simp only [next, sendAsync, hx]
        split <;> rfl
    | tryAdd | delay =>
      refine hnext ?_
      simp only [next, sendAsync]
      split <;> rfl
    | whenAny elapsed =>
      refine hnext ?_
      simp only [next, sendAsync]
      split
      · rfl
      · split <;> rfl
    | tryRemove timedOut =>
      refine hnext ?_
      simp only [next, sendAsync]
      split <;> rfl
    | catchRemove e => exact hnext rfl
  | onAck q =>
    refine hnext ?_
    cases q with
    | tryRemove header ack =>
      simp only [next, onAck]
      split
      · rfl
      · split <;> rfl
    | trySetResult => rfl
  | onConnectionFailure q =>
    cases q with
    | moveNext e unseen =>
      -- the loop is over, or there is an entry that it has not come to
      by_cases hover : ∀ entry ∈ unseen.entries,
          s.shared.pendingMessages.lookup entry.1 ≠ some entry.2
      · exact hnext (by simp only [next, onConnectionFailure, if_pos hover]; rfl)
      · push Not at hover
        obtain ⟨entry, -, hlookup⟩ := hover
        have hvisit :
            (visit s.shared entry.1 (.onConnectionFailure (.moveNext e unseen))).isSome = true := by
          rw [visit, hlookup]
          rfl
        obtain ⟨s', hs'⟩ := exists_step_of_isSome cfg (.visit i entry.1)
          (f := fun sh => visit sh entry.1) hpc rfl hvisit
        exact ⟨.visit i entry.1, s', rfl, rfl, hs'⟩
    | _ => exact hnext rfl
  | done => exact absurd rfl hdone

/-- Every thread that is not at its end can move. -/
lemma exists_move (h : (system cfg).Reachable ok s) (hpc : s.threads[i]? = some pc)
    (hdone : pc ≠ .done) : ∃ l s', l.thread = some i ∧ step cfg s l = some s' := by
  cases hsend : pc.isSend with
  | true =>
    obtain ⟨c, rfl⟩ := Pc.isSend_iff.mp hsend
    exact exists_send cfg hpc
  | false =>
    obtain ⟨l, s', -, hthread, hstep⟩ := exists_own h hpc hdone hsend
    exact ⟨l, s', hthread, hstep⟩

end Steps

/-! ## The wrapper comes to rest -/

section Rest

variable {cfg : Config} {ok : Guard Wrapper Label} {s s' : Wrapper} {i : ℕ} {pc : Pc}

/-- A step of the threads themselves, in which a thread moves. -/
lemma move_of_thread {l : Label} (hl : l.thread = some i) (hpc : s.threads[i]? = some pc)
    (h : step cfg s l = some s') :
    ∃ sh' pc', Move cfg i s.shared pc sh' pc' ∧ s' = ⟨sh', s.threads.set i pc'⟩ := by
  rcases at_step hpc h with ⟨hne, -⟩ | ⟨sh', pc', -, hm, rfl⟩
  · exact absurd hl hne
  · exact ⟨sh', pc', hm, rfl⟩

/-- The requests that were sent and the callbacks of acknowledgements come to their ends. -/
lemma exists_requests_done (h : (system cfg).Reachable Unrestricted s) (hsent : unsent s = 0) :
    ∃ s', (system cfg).Reaches OwnMoves s s' ∧ (system cfg).Reachable Unrestricted s' ∧
      unsent s' = 0 ∧ ∀ pc ∈ s'.threads, pc = .done ∨ pc.isFailure = true := by
  have hnext : ∀ s : Wrapper, ((system cfg).Reachable Unrestricted s ∧ unsent s = 0) →
      ¬ (∀ pc ∈ s.threads, pc = .done ∨ pc.isFailure = true) →
      ∃ s', (system cfg).Reaches OwnMoves s s' ∧
        ((system cfg).Reachable Unrestricted s' ∧ unsent s' = 0) ∧
        s'.work Pc.rank < s.work Pc.rank := by
    rintro s ⟨hreach, hsent⟩ hbusy
    obtain ⟨pc, hmem, hdone, hfailure⟩ :
        ∃ pc ∈ s.threads, pc ≠ .done ∧ pc.isFailure = false := by
      by_contra hnone
      refine hbusy fun pc hpc => ?_
      by_contra hpc'
      rw [not_or, Bool.not_eq_true] at hpc'
      exact hnone ⟨pc, hpc, hpc'⟩
    obtain ⟨i, hpc⟩ := List.getElem?_of_mem hmem
    have hsend : pc.isSend = false := by
      have hnone := List.countP_eq_zero.mp hsent pc (List.mem_of_getElem? hpc)
      simpa using hnone
    obtain ⟨l, s', hown, hthread, hstep⟩ := exists_own hreach hpc hdone hsend
    obtain ⟨sh', pc', hm, rfl⟩ := move_of_thread hthread hpc hstep
    exact ⟨_, (System.Reaches.refl s).step hown hstep,
      ⟨hreach.step trivial hstep, (unsent_own hown hstep).trans hsent⟩,
      Pool.work_set_lt hpc (hm.rank_lt_of_isFailure hfailure)⟩
  obtain ⟨s', hrun, ⟨hreach, hsent'⟩, hdone⟩ := System.exists_rest _ _ _ hnext ⟨h, hsent⟩
  exact ⟨s', hrun, hreach, hsent', hdone⟩

/-- With nothing pending the callbacks of failures come to their ends. -/
lemma exists_failures_done (h : (system cfg).Reachable Unrestricted s)
    (hfailures : ∀ pc ∈ s.threads, pc = .done ∨ pc.isFailure = true) :
    ∃ s', (system cfg).Reaches OwnMoves s s' ∧ (system cfg).Reachable Unrestricted s' ∧
      ∀ pc ∈ s'.threads, pc = .done := by
  have hnext : ∀ s : Wrapper, ((system cfg).Reachable Unrestricted s ∧
        ∀ pc ∈ s.threads, pc = .done ∨ pc.isFailure = true) →
      ¬ (∀ pc ∈ s.threads, pc = .done) → ∃ s', (system cfg).Reaches OwnMoves s s' ∧
        ((system cfg).Reachable Unrestricted s' ∧
          ∀ pc ∈ s'.threads, pc = .done ∨ pc.isFailure = true) ∧
        s'.work Pc.rank < s.work Pc.rank := by
    rintro s ⟨hreach, hfailures⟩ hbusy
    have hempty : s.shared.pendingMessages = ∅ := by
      refine pendingMessages_eq_empty hreach fun pc hpc => ?_
      rcases hfailures pc hpc with rfl | hfailure
      · rfl
      · cases pc with
        | onConnectionFailure => rfl
        | _ => cases hfailure
    obtain ⟨pc, hmem, hdone⟩ : ∃ pc ∈ s.threads, pc ≠ .done := by
      by_contra hnone
      exact hbusy fun pc hpc => by_contra fun hne => hnone ⟨pc, hpc, hne⟩
    obtain ⟨i, hpc⟩ := List.getElem?_of_mem hmem
    have hfailure := (hfailures pc hmem).resolve_left hdone
    -- the loop does not come to any entry
    have hmove : ∃ sh' pc', next i s.shared pc = some (sh', pc') ∧
        (pc' = .done ∨ pc'.isFailure = true) ∧ pc'.rank < pc.rank := by
      cases pc with
      | onConnectionFailure q =>
        cases q with
        | getEnumerator cause => exact ⟨_, _, rfl, .inr rfl, by simp [Pc.rank]⟩
        | moveNext e unseen =>
          refine ⟨s.shared, .onConnectionFailure .clear, ?_, .inr rfl, by simp [Pc.rank]⟩
          rw [next, onConnectionFailure, if_pos]
          intro entry _
          rw [hempty]
          simp
        | trySetException e task unseen => exact ⟨_, _, rfl, .inr rfl, by simp [Pc.rank]⟩
        | clear => exact ⟨_, _, rfl, .inl rfl, by simp [Pc.rank]⟩
      | _ => cases hfailure
    obtain ⟨sh', pc', hnext, hfailure', hlt⟩ := hmove
    have hstep : step cfg s (.step i) = some ⟨sh', s.threads.set i pc'⟩ :=
      Pool.move_eq_some.mpr ⟨pc, sh', pc', hpc, hnext, rfl⟩
    exact ⟨_, (System.Reaches.refl s).step (l := .step i) rfl hstep,
      ⟨hreach.step (l := .step i) trivial hstep, Pool.forall_set hfailures hfailure'⟩,
      Pool.work_set_lt hpc hlt⟩
  obtain ⟨s', hrun, ⟨hreach, -⟩, hdone⟩ := System.exists_rest _ _ _ hnext ⟨h, hfailures⟩
  exact ⟨s', hrun, hreach, hdone⟩

/-- A wrapper whose requests were all sent comes to rest by itself. -/
lemma exists_rest_of_sent (h : (system cfg).Reachable Unrestricted s) (hsent : unsent s = 0) :
    ∃ s', (system cfg).Reaches OwnMoves s s' ∧ ∀ pc ∈ s'.threads, pc = .done := by
  obtain ⟨t, hfirst, ht, -, hfailures⟩ := exists_requests_done h hsent
  obtain ⟨s', hrest, -, hdone⟩ := exists_failures_done ht hfailures
  exact ⟨s', hfirst.trans hrest, hdone⟩

/-- A wrapper at rest: nothing is pending, and every request has had one outcome. -/
structure AtRest (s : Wrapper) : Prop where
  done : ∀ pc ∈ s.threads, pc = .done
  pendingMessages : s.shared.pendingMessages = ∅
  outcomes : ∀ i c, .called i c ∈ s.shared.log → outcomes i s.shared.log = 1

/-- A wrapper all of whose threads are at their ends is at rest. -/
lemma atRest (h : (system cfg).Reachable ok s) (hdone : ∀ pc ∈ s.threads, pc = .done) :
    AtRest s where
  done := hdone
  pendingMessages := pendingMessages_eq_empty h fun pc hpc => by
    rw [hdone pc hpc]
    rfl
  outcomes i c hcalled := by
    have hknows := knowsOutcome h i
    cases hpc : s.threads[i]? with
    | none =>
      rw [hpc] at hknows
      exact absurd hcalled ((outcomes_of_history hknows).2 c)
    | some pc =>
      rw [hpc, hdone pc (List.mem_of_getElem? hpc)] at hknows
      exact hknows c hcalled

/-- The requests that have still to be sent are sent. -/
lemma exists_sent (h : (system cfg).Reachable Unrestricted s) :
    ∃ s', (system cfg).Reaches OwnSteps s s' ∧ (system cfg).Reachable Unrestricted s' ∧
      unsent s' = 0 := by
  have hnext : ∀ s : Wrapper, (system cfg).Reachable Unrestricted s → ¬ unsent s = 0 →
      ∃ s', (system cfg).Reaches OwnSteps s s' ∧ (system cfg).Reachable Unrestricted s' ∧
        unsent s' < unsent s := by
    intro s hreach hunsent
    obtain ⟨pc, hmem, hsend⟩ := List.countP_pos_iff.mp (Nat.pos_of_ne_zero hunsent)
    obtain ⟨i, hpc⟩ := List.getElem?_of_mem hmem
    obtain ⟨c, rfl⟩ := Pc.isSend_iff.mp hsend
    obtain ⟨l, s', hthread, hstep⟩ := exists_send cfg hpc
    obtain ⟨sh', pc', hm, rfl⟩ := move_of_thread hthread hpc hstep
    have hl : l.thread ≠ none := by
      rw [hthread]
      simp
    refine ⟨_, (System.Reaches.refl s).step hl hstep, hreach.step trivial hstep, ?_⟩
    have hset := Pool.countP_set_add Pc.isSend pc' hpc
    have hsend' : pc'.isSend = false := by
      cases hm <;> rfl
    rw [hsend, hsend'] at hset
    change (s.threads.set i pc').countP Pc.isSend < s.threads.countP Pc.isSend
    exact Nat.lt_of_succ_le (Nat.le_of_eq hset)
  obtain ⟨s', hrun, hreach, hsent⟩ := System.exists_rest _ _ _ hnext h
  exact ⟨s', hrun, hreach, hsent⟩

/-- A wrapper comes to rest by its own steps. -/
lemma exists_rest (h : (system cfg).Reachable Unrestricted s) :
    ∃ s', (system cfg).Reaches OwnSteps s s' ∧ AtRest s' := by
  obtain ⟨t, hfirst, ht, hsent⟩ := exists_sent h
  obtain ⟨s', hrest, hdone⟩ := exists_rest_of_sent ht hsent
  have hweaker : ∀ (s : Wrapper) (l : Label), OwnMoves s l → OwnSteps s l :=
    fun _ _ hl => thread_of_isOwn hl
  exact ⟨s', hfirst.trans (hrest.mono hweaker),
    atRest (ht.reaches (hrest.mono fun _ _ _ => trivial)) hdone⟩

/-- In every run of the wrapper, whatever the requests, the acknowledgements and the failures were:
a request or a callback of an acknowledgement takes no more steps than its rank says, at most nine,
however many steps the others take in between, and a callback of a failure takes two more for every
entry that its loop comes to; a thread that is not at its end can move, whatever the others have
done.  Without any further call the threads take no more steps, in whatever order they go on, than
their ranks say and two for every entry that a loop comes to; where they can go on no longer nothing
is pending and every request has had exactly one outcome, and there they can be brought from
everywhere. -/
theorem requestsFinish (h : (system cfg).Reachable Unrestricted s) :
    (∀ i pc, s.threads[i]? = some pc → pc.rank ≤ 9 ∧
      ∀ ls s', (system cfg).Takes Unrestricted ls s s' →
        (pc.isFailure = false → ls.countP (fun l => l.thread = some i) ≤ pc.rank) ∧
        ls.countP (fun l => l.thread = some i) ≤
          pc.rank + 2 * ls.countP (fun l => l.isVisit = true ∧ l.thread = some i)) ∧
    (∀ i pc, s.threads[i]? = some pc → pc ≠ .done →
      ∃ l s', l.thread = some i ∧ step cfg s l = some s') ∧
    (∀ ls s', (system cfg).Takes OwnSteps ls s s' →
      ls.length ≤ s.work Pc.rank + 2 * ls.countP Label.isVisit) ∧
    (∀ s', (system cfg).Reaches OwnSteps s s' →
      (∀ l, OwnSteps s' l → step cfg s' l = none) → AtRest s') ∧
    ∃ s', (system cfg).Reaches OwnSteps s s' ∧ AtRest s' := by
  refine ⟨fun i pc hpc => ⟨pc.rank_le, fun ls s' htakes => ⟨fun hfailure => ?_, ?_⟩⟩,
    fun i pc hpc hdone => exists_move h hpc hdone, fun ls s' htakes => ?_,
    fun s' hreaches hstuck => ?_, exists_rest h⟩
  · have hbound := htakes.countP_le
      (fun s => ∃ pc : Pc, s.threads[i]? = some pc ∧ pc.isFailure = false)
      (Pool.rankAt Pc.rank i) (fun l => l.thread = some i)
      (fun t l t' ⟨q, hq, hqf⟩ _ hstep => rankAt_step hq hqf hstep) ⟨pc, hpc, hfailure⟩
    rw [Pool.rankAt_eq hpc] at hbound
    exact Nat.le_trans (Nat.le_add_right _ _) hbound
  · have hbound := htakes.countP_le_add (fun s => ∃ pc : Pc, s.threads[i]? = some pc)
      (Pool.rankAt Pc.rank i) 2 (fun l => l.thread = some i)
      (fun l => l.isVisit = true ∧ l.thread = some i)
      (fun t l t' ⟨q, hq⟩ _ hstep => rankAt_step_add hq hstep) ⟨pc, hpc⟩
    rw [Pool.rankAt_eq hpc] at hbound
    exact Nat.le_trans (Nat.le_add_right _ _) hbound
  · have hbound := htakes.countP_le_add (fun _ => True) (Pool.work Pc.rank) 2 (fun _ => true)
      Label.isVisit (fun t l t' _ hl hstep => ⟨trivial, work_step hl hstep⟩) trivial
    rw [List.countP_true] at hbound
    exact Nat.le_trans (Nat.le_add_right _ _) hbound
  · have hreach : (system cfg).Reachable Unrestricted s' :=
      h.reaches (hreaches.mono fun _ _ _ => trivial)
    refine atRest hreach fun pc hpc => ?_
    by_contra hne
    obtain ⟨i, hi⟩ := List.getElem?_of_mem hpc
    obtain ⟨l, t, hl, hstep⟩ := exists_move hreach hi hne
    have hown : OwnSteps s' l := by
      rw [OwnSteps, hl]
      simp
    rw [hstuck l hown] at hstep
    cases hstep

end Rest

open Runs in
/-- An insertion waits for its acknowledgement, and the wrapper comes to rest without it. -/
theorem requestsFinish_event : ∃ s s' : Wrapper,
    (system Scenario.cfg).Reachable Unrestricted s ∧ (∃ pc ∈ s.threads, pc.isCall = true) ∧
    (system Scenario.cfg).Reaches OwnSteps s s' ∧ AtRest s' := by
  have hrun : ∃ s, (system Scenario.cfg).Reachable Unrestricted s ∧
      ∃ pc ∈ s.threads, pc.isCall = true :=
    System.exists_reachable registering (by decide +kernel)
  obtain ⟨s, hreach, hcall⟩ := hrun
  obtain ⟨s', hrest⟩ := (requestsFinish hreach).2.2.2.2
  exact ⟨s, s', hreach, hcall, hrest⟩

end SyncGDSClient

end Gds
