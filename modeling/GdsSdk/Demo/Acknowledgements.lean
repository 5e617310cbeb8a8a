import GdsSdk.Demo.Delivery
import GdsSdk.Transition.Progress

/-!
# No acknowledgement is lost

A request sends its message before it registers itself, so that an acknowledgement may come before
there is an entry for it: then it is dropped, and the request waits for its timeout.
`SyncGDSClient.losesNoAck` says that no acknowledgement is lost in the runs in which all are heard.
-/

namespace Gds

open Transition

namespace SyncGDSClient

/-- How many steps a thread has before it at most, but for the entries that the loop of
`OnConnectionFailure` comes to. -/
def Pc.rank : Pc → ℕ
  | .call _ .send => 9
  | .call _ .tryAdd => 8
  | .call _ .delay => 7
  | .call _ (.whenAny false) => 6
  | .call _ (.whenAny true) => 5
  | .call _ .wait => 4
  | .call _ (.tryRemove _) => 3
  | .call _ .result => 2
  | .call _ (.catchRemove _) => 1
  | .onAck (.tryRemove _ _) => 2
  | .onAck (.trySetResult _ _) => 1
  | .onConnectionFailure (.getEnumerator _) => 3
  | .onConnectionFailure (.trySetException _ _ _) => 3
  | .onConnectionFailure (.moveNext _ _) => 2
  | .onConnectionFailure .clear => 1
  | .done => 0

/-- The thread is a callback of a failure. -/
def Pc.isFailure : Pc → Bool
  | .onConnectionFailure _ => true
  | _ => false

section Progress

variable {cfg : Config} {s s' : Wrapper} {l : Label} {i j m : ℕ} {c : Call} {ack : Ack}
  {pc pc' : Pc} {sh sh' : Shared}

/-- A move comes closer to the end of its thread, unless a loop comes to an entry. -/
lemma Move.rank_lt (hm : Move cfg i sh pc sh' pc') (hvisit : pc'.isVisiting = false) :
    pc'.rank < pc.rank := by
  cases hm with
  | completedBefore c elapsed => cases elapsed <;> simp [Pc.rank]
  | failureVisits => cases hvisit
  | _ => simp [Pc.rank]

/-- No thread turns into a callback of a failure. -/
lemma Move.isFailure (hm : Move cfg i sh pc sh' pc') (hpc : pc.isFailure = false) :
    pc'.isFailure = false := by
  cases hm with
  | failureStarts | failureVisits | failureSets | failureEnds => cases hpc
  | _ => rfl

/-- A move of another thread than a callback of a failure comes closer to its end. -/
lemma Move.rank_lt_of_isFailure (hm : Move cfg i sh pc sh' pc') (hpc : pc.isFailure = false) :
    pc'.rank < pc.rank := by
  have hpc' := hm.isFailure hpc
  refine hm.rank_lt ?_
  cases pc' with
  | onConnectionFailure => cases hpc'
  | _ => rfl

/-- A step brings no thread farther from its end but the callbacks of failures, and the one that
moves closer to it. -/
lemma rankAt_step (hpc : s.threads[m]? = some pc) (hfailure : pc.isFailure = false)
    (hstep : step cfg s l = some s') :
    (∃ pc' : Pc, s'.threads[m]? = some pc' ∧ pc'.isFailure = false) ∧
      s'.rankAt Pc.rank m + (decide (l.thread = some m)).toNat ≤ s.rankAt Pc.rank m := by
  rcases at_step hpc hstep with ⟨hl, hpc'⟩ | ⟨sh', pc', hl, hm, rfl⟩
  · rw [Pool.rankAt_eq hpc, Pool.rankAt_eq hpc', decide_eq_false hl]
    exact ⟨⟨pc, hpc', hfailure⟩, Nat.le_refl _⟩
  · have hlt := hm.rank_lt_of_isFailure hfailure
    rw [Pool.rankAt_eq hpc, Pool.rankAt_set_self hpc, decide_eq_true hl]
    exact ⟨⟨pc', Pool.at_set hpc, hm.isFailure hfailure⟩, hlt⟩

/-- In a run without failures a step brings no thread farther from its end, and the one that moves
closer to it. -/
lemma Answers.rankAt_step (h : Answers s) (hstep : step cfg s l = some s')
    (hlt : m < s.threads.length) :
    s'.rankAt Pc.rank m ≤ s.rankAt Pc.rank m ∧
      (l.thread = some m → s'.rankAt Pc.rank m < s.rankAt Pc.rank m) := by
  have hpc := List.getElem?_eq_getElem hlt
  have hfailure : s.threads[m].isFailure = false := by
    cases hq : s.threads[m] with
    | onConnectionFailure =>
      rw [hq] at hpc
      exact (h.knows.at hpc).elim
    | _ => rfl
  have hrank := (SyncGDSClient.rankAt_step hpc hfailure hstep).2
  refine ⟨Nat.le_trans (Nat.le_add_right _ _) hrank, fun hl => ?_⟩
  rw [decide_eq_true hl] at hrank
  exact hrank

/-- A request whose task is complete has a next step. -/
lemma exists_next {q : CallPc} (hq : q ≠ .send) (htask : (sh.tasks i).isSome = true) :
    ∃ p, next i sh (.call c q) = some p := by
  obtain ⟨x, hx⟩ := Option.isSome_iff_exists.mp htask
  cases q with
  | send => exact absurd rfl hq
  | tryAdd | delay =>
    simp only [next, sendAsync]
    split_ifs <;> exact ⟨_, rfl⟩
  | whenAny elapsed => exact ⟨_, if_pos htask⟩
  | wait => exact ⟨_, if_pos htask⟩
  | tryRemove timedOut => cases timedOut <;> exact ⟨_, rfl⟩
  | result =>
    simp only [next, sendAsync, hx]
    cases x with
    | exception e => exact ⟨_, rfl⟩
    | result ack =>
      simp only
      split_ifs <;> exact ⟨_, rfl⟩
  | catchRemove e => exact ⟨_, rfl⟩

/-- A thread with a next step takes it. -/
lemma exists_step_of_next (hpc : s.threads[m]? = some pc) (hheard : Heard s m pc)
    (hnext : ∃ p, next m s.shared pc = some p) :
    ∃ s', Attentive s (.step m) ∧ step cfg s (.step m) = some s' := by
  obtain ⟨⟨sh', pc'⟩, hnext⟩ := hnext
  refine ⟨⟨sh', s.threads.set m pc'⟩, ⟨trivial, ?_, ?_⟩, ?_⟩
  · rintro request ⟨⟩
  · rintro i hi q hq
    cases hi
    cases hpc.symm.trans hq
    exact hheard
  · exact Pool.move_eq_some.mpr ⟨pc, sh', pc', hpc, hnext, rfl⟩

/-- A thread that neither looks up a request nor goes over to a timeout meets nothing. -/
lemma Heard.of_lookup_eq_none (hlookup : pc.lookup = none)
    (h : pc.isExpiring = true → (s.shared.tasks m).isSome = true) : Heard s m pc where
  registered hsome := by
    rw [hlookup] at hsome
    cases hsome
  untaken key hkey := by
    rw [hlookup] at hkey
    cases hkey
  inTime hexpiring hnone := by
    have htask := h hexpiring
    rw [hnone] at htask
    cases htask

/-- A request that is not registered has no entry. -/
lemma KnowsPhase.lookup_ne (h : KnowsPhase sh i (some pc)) (hpc : pc.isUnregistered = true)
    (key : String) : sh.pendingMessages.lookup key ≠ some i := by
  cases pc with
  | call c q =>
    cases q with
    | tryAdd => exact h.2.2 key
    | _ => cases hpc
  | _ => cases hpc

/-- A request that was answered in time and has not returned is in progress. -/
lemma KnowsPhase.inProgress {q : Option Pc} (h : KnowsPhase sh i q)
    (hanswered : phase i sh.log = .answered c j ack) (hreturned : .returned i ack ∉ sh.log) :
    ∃ c' pc, q = some (.call c' pc) ∧ pc ≠ .send := by
  match q, h with
  | none, h => cases hanswered.symm.trans h.1
  | some (.onAck (.tryRemove _ _)), h => cases hanswered.symm.trans h.1
  | some (.onAck (.trySetResult _ _)), h => cases hanswered.symm.trans h.1
  | some .done, h => exact absurd (h.2 c j ack hanswered).1 hreturned
  | some (.call c' pc), h =>
    refine ⟨c', pc, rfl, ?_⟩
    rintro rfl
    cases hanswered.symm.trans h.2.1

/-- A callback that looks up the request that it answers meets nothing, once the request has
registered itself. -/
lemma Heard.of_tryRemove {header : MessageHeader} (h : Answers s)
    (hanswered : phase i s.shared.log = .answered c j ack)
    (hfinds : s.threads[j]? = some (.onAck (.tryRemove header ack)))
    (hlookup : s.shared.pendingMessages.lookup c.messageId = some i) :
    Heard s j (.onAck (.tryRemove header ack)) := by
  obtain ⟨-, -, hanswers⟩ := h.knows.at hfinds
  have hid : header.messageId = some c.messageId := (hanswers i c ack hanswered).2
  have hcall : (phase i s.shared.log).call = some c := Phase.IsAnswered.call ⟨j, ack, hanswered⟩
  refine ⟨fun _ k hunregistered hk => ?_, fun key hkey k hk => ?_, fun hexpiring => ?_⟩
  · -- it answers no other request, and this one is registered
    cases hphase : phase k s.shared.log with
    | answered c' j' ack' =>
      rw [hphase] at hk
      cases hk
      have hid' := (hanswers k c' ack' hphase).2
      have hcall' : (phase k s.shared.log).call = some c' :=
        Phase.IsAnswered.call ⟨_, _, hphase⟩
      obtain rfl := h.ledger.distinct i k c c' hcall hcall' (Option.some.inj (hid.symm.trans hid'))
      obtain ⟨q, hq, hpoint⟩ := (Option.any_eq_true _ _).mp hunregistered
      exact (h.knows.at hq).lookup_ne hpoint _ hlookup
    | _ =>
      rw [hphase] at hk
      cases hk
  · cases hid.symm.trans hkey
    cases hlookup.symm.trans hk
    rw [hanswered]
    refine ⟨rfl, ?_⟩
    rintro j' ⟨⟩
    rfl
  · cases hexpiring

/-- As long as a request that was answered in time has not returned, the request or the callback of
its answer has a next step. -/
lemma exists_step (h : Answers s) (hanswered : phase i s.shared.log = .answered c j ack)
    (hreturned : .returned i ack ∉ s.shared.log) :
    ∃ l s', (l = .step i ∨ l = .step j) ∧ Attentive s l ∧ step cfg s l = some s' := by
  obtain ⟨c', q, hi, hq⟩ := (h.knows i).inProgress hanswered hreturned
  rcases h.due i c j ack hanswered with htask | hsets | ⟨header, hfinds, hentry⟩
  · -- the request goes on with its answer
    have hsome : (s.shared.tasks i).isSome = true := by
      rw [htask]
      rfl
    obtain ⟨s', hok, hstep⟩ :=
      exists_step_of_next hi (.of_lookup_eq_none rfl fun _ => hsome) (exists_next hq hsome)
    exact ⟨.step i, s', .inl rfl, hok, hstep⟩
  · -- the callback completes the task
    obtain ⟨s', hok, hstep⟩ := exists_step_of_next hsets
      (.of_lookup_eq_none rfl fun hexpiring => by cases hexpiring) ⟨_, rfl⟩
    exact ⟨.step j, s', .inr rfl, hok, hstep⟩
  · rcases hentry with hunregistered | hlookup
    · -- the request registers itself before the callback looks it up
      have hnext : ∃ p, next i s.shared (.call c .tryAdd) = some p := by
        simp only [next, sendAsync]
        split_ifs <;> exact ⟨_, rfl⟩
      obtain ⟨s', hok, hstep⟩ := exists_step_of_next hunregistered
        (.of_lookup_eq_none rfl fun hexpiring => by cases hexpiring) hnext
      exact ⟨.step i, s', .inl rfl, hok, hstep⟩
    · have hnext : ∃ p, next j s.shared (.onAck (.tryRemove header ack)) = some p := by
        simp only [next, onAck]
        split
        · exact ⟨_, rfl⟩
        · split <;> exact ⟨_, rfl⟩
      obtain ⟨s', hok, hstep⟩ := exists_step_of_next hfinds
        (Heard.of_tryRemove h hanswered hfinds hlookup) hnext
      exact ⟨.step j, s', .inr rfl, hok, hstep⟩

end Progress

/-! ## Every answer arrives -/

section Completes

variable {cfg : Config} {ok : Guard Wrapper Label} {s s' : Wrapper} {i j : ℕ} {c : Call} {ack : Ack}

/-- A request that was answered in time and its callback have started. -/
lemma Answers.lt_length (h : Answers s) (hanswered : phase i s.shared.log = .answered c j ack) :
    i < s.threads.length ∧ j < s.threads.length := by
  have hi : s.threads[i]? ≠ none := by
    intro hnone
    have hknows := h.knows i
    rw [hnone] at hknows
    cases hanswered.symm.trans hknows.1
  have hj : s.threads[j]? ≠ none := by
    intro hnone
    have hknows := h.knows j
    rw [hnone] at hknows
    apply hknows.2.2 i
    rw [hanswered]
    rfl
  rw [ne_eq, List.getElem?_eq_none_iff, Nat.not_le] at hi hj
  exact ⟨hi, hj⟩

/-- A request that was answered in time stays so. -/
lemma answered_of_reaches (h : (system cfg).Reaches ok s s')
    (hanswered : phase i s.shared.log = .answered c j ack) :
    phase i s'.shared.log = .answered c j ack := by
  refine h.invariant (I := fun s => phase i s.shared.log = .answered c j ack) ?_ hanswered
  intro s l s' hs _ hstep
  rcases step_cases hstep with ⟨sh', pc', -, hstart, rfl⟩ | ⟨k, pc, sh', pc', -, -, hm, rfl⟩
  · exact hstart.extends_log.phase_eq hs rfl
  · exact hm.extends_log.phase_eq hs rfl

/-- The request and its callback bring the request to its end. -/
lemma exists_returned (h : (system cfg).Reachable Attentive s)
    (hanswered : phase i s.shared.log = .answered c j ack) :
    ∃ s', (system cfg).Reaches (fun s l => Attentive s l ∧ (l = .step i ∨ l = .step j)) s s' ∧
      .returned i ack ∈ s'.shared.log := by
  -- by induction on what the two threads have before them
  generalize hn : s.rankAt Pc.rank i + s.rankAt Pc.rank j = n
  induction n using Nat.strong_induction_on generalizing s with
  | _ n ih =>
    by_cases hreturned : .returned i ack ∈ s.shared.log
    · exact ⟨s, System.Reaches.refl s, hreturned⟩
    · have hs := answers h
      obtain ⟨l, t, hl, hok, hstep⟩ := exists_step hs hanswered hreturned
      obtain ⟨hi, hj⟩ := hs.lt_length hanswered
      have hranki := hs.rankAt_step hstep hi
      have hrankj := hs.rankAt_step hstep hj
      have hless : t.rankAt Pc.rank i + t.rankAt Pc.rank j < n := by
        rcases hl with rfl | rfl
        · have hlt := hranki.2 rfl
          omega
        · have hlt := hrankj.2 rfl
          omega
      have hfirst : (system cfg).Reaches
          (fun s l => Attentive s l ∧ (l = .step i ∨ l = .step j)) s t :=
        (System.Reaches.refl s).step ⟨hok, hl⟩ hstep
      have ht : phase i t.shared.log = .answered c j ack := answered_of_reaches hfirst hanswered
      obtain ⟨s', hrun, hs'⟩ := ih _ hless (h.step hok hstep) ht rfl
      exact ⟨s', hfirst.trans hrun, hs'⟩

/-- A request that was answered in time completes with the answer. -/
lemma completes (h : (system cfg).Reachable Attentive s)
    (hanswered : phase i s.shared.log = .answered c j ack) :
    Completes cfg Attentive s i j ack where
  threw e he := by
    cases (answers h).knows i |>.ended hanswered he rfl
  returned ack' he := by
    cases (answers h).knows i |>.ended hanswered he rfl
    rfl
  finishes := exists_returned h hanswered
  variant := by
    refine ⟨fun t => t.rankAt Pc.rank i + t.rankAt Pc.rank j, fun t l t' hrun hok hstep => ?_⟩
    have ht := answers (h.reaches hrun)
    obtain ⟨hi, hj⟩ := ht.lt_length (answered_of_reaches hrun hanswered)
    have hranki := ht.rankAt_step hstep hi
    have hrankj := ht.rankAt_step hstep hj
    refine ⟨Nat.add_le_add hranki.1 hrankj.1, fun hthread => ?_⟩
    rcases hthread with hthread | hthread
    · exact Nat.add_lt_add_of_lt_of_le (hranki.2 hthread) hrankj.1
    · exact Nat.add_lt_add_of_le_of_lt hranki.1 (hrankj.2 hthread)

end Completes

/-- In every run of requests with identifiers of their own and without headers of their own, and
without failures of the connection: if no timeout is longer than a timer takes, if every callback
looks its acknowledgement up only after the request has registered itself, if no entry is removed
for another acknowledgement than the answer, and if no request goes over to its timeout between the
call of the listener and the completion of its task, then every request whose acknowledgement came
in time completes with it. -/
theorem losesNoAck (cfg : Config) : LosesNoAck cfg AllHeard :=
  fun _ _ _ _ _ h hanswered => completes h hanswered

/-! ## Two runs -/

namespace Runs

/-- The thread that an event ends with an exception. -/
def thrower : Event → Option ℕ
  | .threw i _ => some i
  | _ => none

/-- The acknowledgement of an insertion comes before its registration, and the insertion times
out. -/
def overtaking : List Label :=
  [.call (event (some "m") none) "guid", sends 0, .acknowledge (ackHeader "m") eventAck, .step 1] ++
    List.replicate 3 (.step 0) ++ [.elapse 0, .step 0, .step 0]

/-- An answer that an execution ends with. -/
lemma exists_answered (ok : Guard Wrapper Label) [∀ s l, Decidable (ok s l)] (P : Wrapper → Prop)
    [DecidablePred P] (ls : List Label)
    (h : (System.exec (system Scenario.cfg) ok ls (system Scenario.cfg).init).any
      (fun s => decide ((phase 0 s.shared.log).answer = some 1 ∧ P s)) = true) :
    ∃ s c ack, (system Scenario.cfg).Reachable ok s ∧
      phase 0 s.shared.log = .answered c 1 ack ∧ P s := by
  obtain ⟨s, hreach, hanswer, hP⟩ := System.exists_reachable ls h
  cases hphase : phase 0 s.shared.log with
  | answered c j ack =>
    rw [hphase] at hanswer
    cases hanswer
    exact ⟨s, c, ack, hreach, hphase, hP⟩
  | _ =>
    rw [hphase] at hanswer
    cases hanswer

end Runs

open Runs in
/-- An acknowledgement that comes between the send of a request and its registration is lost. -/
theorem not_losesNoAck : ¬ LosesNoAck Scenario.cfg Unrestricted := by
  intro hclaim
  obtain ⟨s, c, ack, hreach, hanswered, hthrew⟩ := exists_answered
    (fun s l => Separate s l ∧ Unrestricted s l)
    (fun s => ∃ e ∈ s.shared.log, thrower e = some 0) overtaking (by decide +kernel)
  obtain ⟨e, he, hthrower⟩ := hthrew
  cases e with
  | threw i e =>
    cases hthrower
    exact (hclaim s 0 c 1 ack hreach hanswered).threw e he
  | _ => cases hthrower

open Runs in
/-- An insertion that is registered before its acknowledgement comes completes with it. -/
theorem losesNoAck_event : ∃ s c ack, phase 0 s.shared.log = .answered c 1 ack ∧
    Completes Scenario.cfg Attentive s 0 1 ack := by
  obtain ⟨s, c, ack, hreach, hanswered, -⟩ := exists_answered Attentive (fun _ => True)
    (registering ++ [.acknowledge (ackHeader "m") eventAck]) (by decide +kernel)
  exact ⟨s, c, ack, hanswered, losesNoAck Scenario.cfg s 0 c 1 ack hreach hanswered⟩

end SyncGDSClient

end Gds
