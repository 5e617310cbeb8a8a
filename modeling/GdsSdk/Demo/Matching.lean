import GdsSdk.Demo.Delivery
import Mathlib.Data.List.Nodup

/-!
# One acknowledgement for one request

A request returns the acknowledgement that its task was completed with, and a callback completes at
most one task: the one that it has found under the identifier of its acknowledgement.  So the
requests that have returned can be matched with different callbacks, whatever identifiers they
share, and whatever headers they were given.
-/

namespace Gds

open Transition

namespace SyncGDSClient

/-- The callback that an event starts, and what it is given. -/
def Event.delivery : Event → Option (ℕ × MessageHeader × Ack)
  | delivered j header ack => some (j, header, ack)
  | _ => none

/-- The request that an event returns from, and what it returns. -/
def Event.result : Event → Option (ℕ × Ack)
  | returned i ack => some (i, ack)
  | _ => none

/-- The acknowledgements that the listener was called with, newest first. -/
def deliveries (log : List Event) : List (ℕ × MessageHeader × Ack) := log.filterMap Event.delivery

/-- The acknowledgements that were returned, newest first. -/
def results (log : List Event) : List (ℕ × Ack) := log.filterMap Event.result

lemma mem_deliveries {log : List Event} {j : ℕ} {header : MessageHeader} {ack : Ack} :
    (j, header, ack) ∈ deliveries log ↔ .delivered j header ack ∈ log := by
  rw [deliveries, List.mem_filterMap]
  constructor
  · rintro ⟨e, he, heq⟩
    cases e <;> cases heq
    exact he
  · intro he
    exact ⟨_, he, rfl⟩

lemma mem_results {log : List Event} {i : ℕ} {ack : Ack} :
    (i, ack) ∈ results log ↔ .returned i ack ∈ log := by
  rw [results, List.mem_filterMap]
  constructor
  · rintro ⟨e, he, heq⟩
    cases e <;> cases heq
    exact he
  · intro he
    exact ⟨_, he, rfl⟩

/-- Callback `j` may complete request `k` with the acknowledgement: it was given it with the key
that the request has registered. -/
def Answered (sh : Shared) (j k : ℕ) (ack : Ack) : Prop :=
  ∃ header key, .delivered j header ack ∈ sh.log ∧ header.messageId = some key ∧
    .registered k key ∈ sh.log

/-- What a callback knows of its acknowledgement. -/
def KnowsAck (sh : Shared) (j : ℕ) : Option Pc → Prop
  | some (.onAck (.tryRemove header ack)) => .delivered j header ack ∈ sh.log
  | some (.onAck (.trySetResult k ack)) => Answered sh j k ack
  | _ => True

/-- Every request returns once, with what its task was completed with. -/
structure ReturnedOnce (s : Wrapper) : Prop where
  returned : ∀ r ∈ results s.shared.log, s.threads[r.1]? = some .done ∧
    s.shared.tasks r.1 = some (.result r.2) ∧
      ∃ c, .called r.1 c ∈ s.shared.log ∧ c.request.accepts r.2 = true
  nodup : ((results s.shared.log).map Prod.fst).Nodup

/-- The callback `answerer k` has completed request `k`, and no other one. -/
structure Matches (s : Wrapper) (answerer : ℕ → ℕ) : Prop where
  completed : ∀ k ack, s.shared.tasks k = some (.result ack) →
    s.threads[answerer k]? = some .done ∧ Answered s.shared (answerer k) k ack
  injective : ∀ k k' ack ack', s.shared.tasks k = some (.result ack) →
    s.shared.tasks k' = some (.result ack') → answerer k = answerer k' → k = k'

variable {cfg : Config} {n i j k : ℕ} {sh sh' : Shared} {l : Label} {pc pc' : Pc} {ack : Ack}

lemma Answered.mono (h : Answered sh j k ack) (hlog : Extends n sh.log sh'.log) :
    Answered sh' j k ack := by
  obtain ⟨header, key, hdelivered, hheader, hregistered⟩ := h
  exact ⟨header, key, hlog.mem hdelivered, hheader, hlog.mem hregistered⟩

lemma KnowsAck.mono {q : Option Pc} (h : KnowsAck sh j q) (hlog : Extends n sh.log sh'.log) :
    KnowsAck sh' j q := by
  match q, h with
  | some (.onAck (.tryRemove header ack)), h => exact hlog.mem h
  | some (.onAck (.trySetResult k ack)), h => exact Answered.mono h hlog
  | none, _ | some (.call _ _), _ | some (.onConnectionFailure _), _ | some .done, _ => trivial

/-! ## Threads that start -/

namespace Start

/-- A thread that starts knows its acknowledgement. -/
lemma knowsAck (h : Start n sh l sh' pc') : KnowsAck sh' n (some pc') := by
  cases h with
  | delivered => exact List.mem_cons_self
  | _ => trivial

/-- A thread that starts completes no task. -/
lemma tasks_eq (h : Start n sh l sh' pc') : sh'.tasks = sh.tasks := by
  cases h <;> rfl

/-- A thread that starts returns nothing. -/
lemma results_eq (h : Start n sh l sh' pc') : results sh'.log = results sh.log := by
  cases h <;> rfl

end Start

/-! ## Moves -/

namespace Move

/-- What a callback knows of its acknowledgement after a move of its own. -/
lemma knowsAck (h : Move cfg i sh pc sh' pc') (hpc : KnowsAck sh i (some pc))
    (howns : ∀ key k, sh.pendingMessages.lookup key = some k → .registered k key ∈ sh.log) :
    KnowsAck sh' i (some pc') := by
  cases h with
  | ackFinds header ack messageId hheader task hlookup =>
    exact ⟨header, messageId, hpc, hheader, howns messageId task hlookup⟩
  | _ => trivial

/-- A move delivers nothing. -/
lemma deliveries_eq (h : Move cfg i sh pc sh' pc') : deliveries sh'.log = deliveries sh.log := by
  cases h with
  | ackSets | failureSets => rw [Shared.trySet_log]
  | _ => rfl

/-- A move returns at most from its own request, with what the task was completed with. -/
lemma results_cases (h : Move cfg i sh pc sh' pc') : results sh'.log = results sh.log ∨
    ∃ c ack, pc = .call c .result ∧ pc' = .done ∧ sh.tasks i = some (.result ack) ∧
      c.request.accepts ack = true ∧ results sh'.log = (i, ack) :: results sh.log := by
  cases h with
  | returns c ack htask haccepts => exact .inr ⟨c, ack, rfl, rfl, htask, haccepts, rfl⟩
  | ackSets | failureSets => rw [Shared.trySet_log]; exact .inl rfl
  | _ => exact .inl rfl

/-- A move that completes a task with an acknowledgement is that of the callback that has found
it. -/
lemma tasks_cases (h : Move cfg i sh pc sh' pc') (htask : sh'.tasks k = some (.result ack)) :
    sh.tasks k = some (.result ack) ∨
      (sh.tasks k = none ∧ pc = .onAck (.trySetResult k ack) ∧ pc' = .done) := by
  cases h with
  | ackSets task ack' =>
    rcases Shared.tasks_trySet_cases _ _ _ htask with hold | ⟨rfl, heq⟩
    · exact .inl hold
    · cases heq
      cases hnone : sh.tasks k with
      | none => exact .inr ⟨rfl, rfl, rfl⟩
      | some x =>
        rw [Shared.tasks_trySet_of_some _ _ _ hnone] at htask
        exact .inl htask
  | failureSets =>
    rcases Shared.tasks_trySet_cases _ _ _ htask with hold | ⟨-, heq⟩
    · exact .inl hold
    · cases heq
  | _ => exact .inl htask

end Move

/-- A thread that is done stays where it is. -/
lemma at_done_set {threads : List Pc} (hpc : threads[i]? = some pc) (hm : Move cfg i sh pc sh' pc')
    (hj : threads[j]? = some .done) : (threads.set i pc')[j]? = some .done := by
  have hij : i ≠ j := by
    rintro rfl
    rw [hpc] at hj
    cases hj
    cases hm
  rwa [List.getElem?_set_ne hij]

/-! ## Runs -/

variable {s s' : Wrapper} {ok : Guard Wrapper Label}

/-- A move keeps that every request returns once. -/
lemma returnedOnce_move (hknows : s.Numbered (Knows cfg)) (h : ReturnedOnce s)
    (hpc : s.threads[i]? = some pc) (hm : Move cfg i s.shared pc sh' pc') :
    ReturnedOnce ⟨sh', s.threads.set i pc'⟩ := by
  have hlog := hm.extends_log
  have hold : ∀ r ∈ results s.shared.log, (s.threads.set i pc')[r.1]? = some .done ∧
      sh'.tasks r.1 = some (.result r.2) ∧
        ∃ c, .called r.1 c ∈ sh'.log ∧ c.request.accepts r.2 = true := by
    intro r hr
    obtain ⟨hdone, htask, c, hcall, haccepts⟩ := h.returned r hr
    exact ⟨at_done_set hpc hm hdone, hm.tasks_mono htask, c, hlog.mem hcall, haccepts⟩
  rcases hm.results_cases with heq | ⟨c, ack, rfl, rfl, htask, haccepts, heq⟩
  · refine ⟨fun r hr => hold r (heq ▸ hr), ?_⟩
    rw [heq]
    exact h.nodup
  · obtain ⟨⟨newer, binary, -, -, hown⟩, -⟩ : Registered cfg i c (history i s.shared.log) ∧ _ :=
      hknows.at hpc
    have hcall : .called i c ∈ s.shared.log := by
      refine (mem_history (i := i) rfl).mp ?_
      simp [hown]
    refine ⟨fun r hr => ?_, ?_⟩
    · rw [heq] at hr
      rcases List.mem_cons.mp hr with rfl | hr
      · exact ⟨Pool.at_set hpc, hm.tasks_mono htask, c, hlog.mem hcall, haccepts⟩
      · exact hold r hr
    · rw [heq, List.map_cons, List.nodup_cons]
      refine ⟨fun hmem => ?_, h.nodup⟩
      -- it would have returned before
      obtain ⟨r, hr, hfirst⟩ := List.mem_map.mp hmem
      have hdone := (h.returned r hr).1
      rw [hfirst, hpc] at hdone
      cases hdone

/-- In every run every request returns once, with what its task was completed with. -/
lemma returnedOnce (h : (system cfg).Reachable ok s) : ReturnedOnce s := by
  refine h.invariant_of (J := fun s => s.Numbered (Knows cfg)) (I := ReturnedOnce)
    (fun s hs => calls hs) ?_ ?_
  · constructor <;> simp [system, Shared.init, results]
  intro s l s' hknows hs _ hstep
  rcases step_cases hstep with ⟨sh', pc', -, hstart, rfl⟩ | ⟨i, pc, sh', pc', -, hpc, hm, rfl⟩
  · refine ⟨fun r hr => ?_, by rw [Pool.spawn, hstart.results_eq]; exact hs.nodup⟩
    rw [Pool.spawn, hstart.results_eq] at hr
    obtain ⟨hdone, htask, c, hcall, haccepts⟩ := hs.returned r hr
    refine ⟨Pool.at_spawn hdone, ?_, c, hstart.extends_log.mem hcall, haccepts⟩
    rw [Pool.spawn, hstart.tasks_eq]
    exact htask
  · exact returnedOnce_move hknows hs hpc hm

/-- What the callbacks know of their acknowledgements in every run. -/
lemma knowsAck (h : (system cfg).Reachable ok s) : s.Numbered KnowsAck := by
  refine h.invariant_of (J := fun s => ∀ key i, s.shared.pendingMessages.lookup key = some i →
    Owns s key i) (I := fun s => s.Numbered KnowsAck) (fun s hs => owns_of_lookup hs)
    (fun i => trivial) ?_
  intro s l s' howns hs _ hstep
  rcases step_cases hstep with ⟨sh', pc', -, hstart, rfl⟩ | ⟨i, pc, sh', pc', -, hpc, hm, rfl⟩
  · exact hs.spawn hstart.knowsAck fun j _ hj => hj.mono hstart.extends_log
  · exact hs.set hpc (hm.knowsAck (hs.at hpc) fun key k hk => (howns key k hk).registered)
      fun j _ hj => hj.mono hm.extends_log

/-- A move keeps a matching, or extends it by the callback that moves. -/
lemma matches_move {answerer : ℕ → ℕ} (hknows : s.Numbered KnowsAck) (h : Matches s answerer)
    (hpc : s.threads[i]? = some pc) (hm : Move cfg i s.shared pc sh' pc') :
    ∃ answerer', Matches ⟨sh', s.threads.set i pc'⟩ answerer' := by
  have hlog := hm.extends_log
  by_cases hnew : ∃ k ack, s.shared.tasks k = none ∧ sh'.tasks k = some (.result ack)
  · obtain ⟨k, ack, hnone, htask⟩ := hnew
    have hfinds : pc = .onAck (.trySetResult k ack) ∧ pc' = .done := by
      rcases hm.tasks_cases htask with hold | ⟨-, hfinds⟩
      · rw [hnone] at hold
        cases hold
      · exact hfinds
    obtain ⟨rfl, rfl⟩ := hfinds
    have hother : ∀ k' ack', k' ≠ k → sh'.tasks k' = some (.result ack') →
        s.shared.tasks k' = some (.result ack') := by
      intro k' ack' hne htask'
      rcases hm.tasks_cases htask' with hold | ⟨-, heq, -⟩
      · exact hold
      · cases heq
        exact absurd rfl hne
    -- the callbacks of the other requests are done, and this one was not
    have hne : ∀ k' ack', s.shared.tasks k' = some (.result ack') → answerer k' ≠ i := by
      intro k' ack' htask' heq
      have hdone := (h.completed k' ack' htask').1
      rw [heq, hpc] at hdone
      cases hdone
    refine ⟨Function.update answerer k i, fun k' ack' htask' => ?_,
      fun k' k'' ack' ack'' htask' htask'' heq => ?_⟩
    · by_cases hk : k' = k
      · subst hk
        rw [htask] at htask'
        cases htask'
        rw [Function.update_self]
        exact ⟨Pool.at_set hpc, Answered.mono (hknows.at hpc) hlog⟩
      · obtain ⟨hdone, hanswered⟩ := h.completed k' ack' (hother k' ack' hk htask')
        rw [Function.update_of_ne hk]
        exact ⟨at_done_set hpc hm hdone, hanswered.mono hlog⟩
    · by_cases hk : k' = k <;> by_cases hk' : k'' = k
      · rw [hk, hk']
      · subst hk
        rw [Function.update_self, Function.update_of_ne hk'] at heq
        exact absurd heq.symm (hne k'' ack'' (hother k'' ack'' hk' htask''))
      · subst hk'
        rw [Function.update_self, Function.update_of_ne hk] at heq
        exact absurd heq (hne k' ack' (hother k' ack' hk htask'))
      · rw [Function.update_of_ne hk, Function.update_of_ne hk'] at heq
        exact h.injective k' k'' ack' ack'' (hother k' ack' hk htask')
          (hother k'' ack'' hk' htask'') heq
  · have hold : ∀ k ack, sh'.tasks k = some (.result ack) →
        s.shared.tasks k = some (.result ack) := by
      intro k ack htask
      rcases hm.tasks_cases htask with hold | ⟨hnone, -⟩
      · exact hold
      · exact absurd ⟨k, ack, hnone, htask⟩ hnew
    refine ⟨answerer, fun k ack htask => ?_, fun k k' ack ack' htask htask' heq => ?_⟩
    · obtain ⟨hdone, hanswered⟩ := h.completed k ack (hold k ack htask)
      exact ⟨at_done_set hpc hm hdone, hanswered.mono hlog⟩
    · exact h.injective k k' ack ack' (hold k ack htask) (hold k' ack' htask') heq

/-- In every run the completed requests are matched with callbacks. -/
lemma exists_matches (h : (system cfg).Reachable ok s) : ∃ answerer, Matches s answerer := by
  refine h.invariant_of (J := fun s => s.Numbered KnowsAck) (I := fun s => ∃ answerer,
    Matches s answerer) (fun s hs => knowsAck hs) ?_ ?_
  · exact ⟨id, by constructor <;> simp [system, Shared.init]⟩
  rintro s l s' hknows ⟨answerer, hs⟩ _ hstep
  rcases step_cases hstep with ⟨sh', pc', -, hstart, rfl⟩ | ⟨i, pc, sh', pc', -, hpc, hm, rfl⟩
  · have htasks := hstart.tasks_eq
    refine ⟨answerer, fun k ack htask => ?_, fun k k' ack ack' htask htask' heq => ?_⟩
    · rw [Pool.spawn, htasks] at htask
      obtain ⟨hdone, hanswered⟩ := hs.completed k ack htask
      exact ⟨Pool.at_spawn hdone, hanswered.mono hstart.extends_log⟩
    · rw [Pool.spawn, htasks] at htask htask'
      exact hs.injective k k' ack ack' htask htask' heq
  · exact matches_move hknows hs hpc hm

/-! ## The identifiers -/

/-- A registered call is the only one of its thread. -/
lemma Registered.eq_of_called {c c' : Call} {own : List Event} (h : Registered cfg i c own)
    (hcall : .called i c' ∈ own) : c' = c := by
  obtain ⟨newer, binary, hnewer, -, hown⟩ := h
  rw [hown, List.mem_append] at hcall
  rcases hcall with hmem | hmem
  · cases hnewer _ hmem
  · simpa using hmem

/-- A request that has returned was answered by its callback under its own identifier. -/
lemma answered_of_returned (h : (system cfg).Reachable ok s) {answerer : ℕ → ℕ}
    (hmatches : Matches s answerer) (hreturned : .returned i ack ∈ s.shared.log) :
    ∃ c header binary, .called i c ∈ s.shared.log ∧ c.request.accepts ack = true ∧
      .handed i binary ∈ s.shared.log ∧ c.Sends cfg binary ∧
      .delivered (answerer i) header ack ∈ s.shared.log ∧
      header.messageId = some c.messageId := by
  obtain ⟨-, htask, c, hcall, haccepts⟩ :=
    (returnedOnce h).returned (i, ack) (mem_results.mpr hreturned)
  obtain ⟨-, header, key, hdelivered, hheader, hregistered⟩ := hmatches.completed i ack htask
  obtain ⟨c', hkey, hc'⟩ := registered_of_mem h hregistered
  obtain rfl : c = c' := hc'.eq_of_called ((mem_history rfl).mpr hcall)
  obtain ⟨newer, binary, -, hsends, hown⟩ := hc'
  have hhanded : .handed i binary ∈ s.shared.log := by
    refine (mem_history (i := i) rfl).mp ?_
    simp [hown]
  exact ⟨c, header, binary, hcall, haccepts, hhanded, hsends, hdelivered, hkey ▸ hheader⟩

/-- In every run, whatever the identifiers and the headers of the requests and the order of steps,
acknowledgements, timeouts and failures: every request returns at most once, and the requests that
have returned are matched with different callbacks.  Each of these was called with the
acknowledgement that its request has returned, which is of the type of the request and carries its
identifier, and the message of the request was handed to the client. -/
theorem returned_matched (h : (system cfg).Reachable Unrestricted s) :
    ((results s.shared.log).map Prod.fst).Nodup ∧ ∃ answerer : ℕ → ℕ,
      (∀ i i' ack ack', .returned i ack ∈ s.shared.log → .returned i' ack' ∈ s.shared.log →
        answerer i = answerer i' → i = i') ∧
      ∀ i ack, .returned i ack ∈ s.shared.log →
        ∃ c header binary, .called i c ∈ s.shared.log ∧ c.request.accepts ack = true ∧
          .handed i binary ∈ s.shared.log ∧ c.Sends cfg binary ∧
          .delivered (answerer i) header ack ∈ s.shared.log ∧
          header.messageId = some c.messageId := by
  have hreturned := returnedOnce h
  obtain ⟨answerer, hmatches⟩ := exists_matches h
  refine ⟨hreturned.nodup, answerer, fun i i' ack ack' hi hi' heq => ?_, fun i ack hi => ?_⟩
  · have htask := (hreturned.returned (i, ack) (mem_results.mpr hi)).2.1
    have htask' := (hreturned.returned (i', ack') (mem_results.mpr hi')).2.1
    exact hmatches.injective i i' ack ack' htask htask' heq
  · exact answered_of_returned h hmatches hi

open Runs in
/-- An insertion that has returned its acknowledgement. -/
theorem returned_matched_event : ∃ s, (system Scenario.cfg).Reachable Unrestricted s ∧
    ∃ i j ack header, .returned i ack ∈ s.shared.log ∧ .delivered j header ack ∈ s.shared.log := by
  have hrun : ∃ s, (system Scenario.cfg).Reachable Unrestricted s ∧ results s.shared.log ≠ [] := by
    obtain ⟨s, hreach, hlength⟩ : ∃ s, (system Scenario.cfg).Reachable Unrestricted s ∧
        (results s.shared.log).length = 1 :=
      System.exists_reachable (registering ++ returning) (by decide +kernel)
    refine ⟨s, hreach, fun hnil => ?_⟩
    rw [hnil] at hlength
    cases hlength
  obtain ⟨s, hreach, hsome⟩ := hrun
  obtain ⟨⟨i, ack⟩, hmem⟩ := List.exists_mem_of_ne_nil _ hsome
  obtain ⟨answerer, -, hanswered⟩ := (returned_matched hreach).2
  obtain ⟨c, header, binary, -, -, -, -, hdelivered, -⟩ := hanswered i ack (mem_results.mp hmem)
  exact ⟨s, hreach, i, answerer i, ack, header, mem_results.mp hmem, hdelivered⟩

/-! ## The acknowledgements as a whole -/

/-- The identifier that a request was called with. -/
def requestId (i : ℕ) (log : List Event) : Option String :=
  log.findSome? fun e =>
    match e with
    | .called i' c => if i' = i then some c.messageId else none
    | _ => none

/-- The acknowledgements that were returned, each with the identifier of its request. -/
def returnedAcks (log : List Event) : List (Option String × Ack) :=
  (results log).map fun r => (requestId r.1 log, r.2)

/-- The acknowledgements that were delivered, each with its identifier. -/
def deliveredAcks (log : List Event) : List (Option String × Ack) :=
  (deliveries log).map fun d => (d.2.1.messageId, d.2.2)

/-- The identifier of a registered call. -/
lemma requestId_of_registered {c : Call} {log : List Event}
    (h : Registered cfg i c (history i log)) : requestId i log = some c.messageId := by
  have hcall : .called i c ∈ log := by
    obtain ⟨newer, binary, -, -, hown⟩ := h
    refine (mem_history (i := i) rfl).mp ?_
    simp [hown]
  cases hfind : requestId i log with
  | none =>
    have hnone := List.findSome?_eq_none_iff.mp hfind _ hcall
    simp at hnone
  | some id =>
    obtain ⟨e, he, heq⟩ := List.exists_of_findSome?_eq_some hfind
    cases e with
    | called i' c' =>
      simp only at heq
      split_ifs at heq with hi
      subst hi
      cases heq
      rw [h.eq_of_called ((mem_history rfl).mpr he)]
    | _ => cases heq

/-- The acknowledgements that were returned are, with their repetitions, among those that were
delivered. -/
theorem returnedAcks_subperm (h : (system cfg).Reachable ok s) :
    (returnedAcks s.shared.log).Subperm (deliveredAcks s.shared.log) := by
  have hreturned := returnedOnce h
  obtain ⟨answerer, hmatches⟩ := exists_matches h
  have hanswered : ∀ r ∈ results s.shared.log, ∃ header,
      (answerer r.1, header, r.2) ∈ deliveries s.shared.log ∧
        header.messageId = requestId r.1 s.shared.log := by
    intro r hr
    obtain ⟨-, htask, -⟩ := hreturned.returned r hr
    obtain ⟨-, header, key, hdelivered, hheader, hregistered⟩ := hmatches.completed r.1 r.2 htask
    obtain ⟨c, rfl, hc⟩ := registered_of_mem h hregistered
    refine ⟨header, mem_deliveries.mpr hdelivered, ?_⟩
    rw [hheader, requestId_of_registered hc]
  -- the delivery of each request that has returned
  have : Nonempty MessageHeader := ⟨Runs.ackHeader ""⟩
  choose! header hdelivery hid using hanswered
  have hnodup : ((results s.shared.log).map fun r => (answerer r.1, header r, r.2)).Nodup := by
    refine List.Nodup.map_on (fun r hr r' hr' heq => ?_) hreturned.nodup.of_map
    obtain ⟨hanswerer, -, hack⟩ := Prod.mk.inj heq |>.imp id Prod.mk.inj
    have hfirst := hmatches.injective r.1 r'.1 r.2 r'.2 (hreturned.returned r hr).2.1
      (hreturned.returned r' hr').2.1 hanswerer
    exact Prod.ext hfirst hack
  have hsubset : ((results s.shared.log).map fun r => (answerer r.1, header r, r.2)) ⊆
      deliveries s.shared.log := by
    intro d hd
    obtain ⟨r, hr, rfl⟩ := List.mem_map.mp hd
    exact hdelivery r hr
  obtain ⟨found, hperm, hsublist⟩ := List.subperm_of_subset hnodup hsubset
  have heq : returnedAcks s.shared.log = ((results s.shared.log).map fun r =>
      (answerer r.1, header r, r.2)).map fun d => (d.2.1.messageId, d.2.2) := by
    rw [List.map_map]
    refine List.map_congr_left fun r hr => ?_
    simp only [Function.comp_apply, hid r hr]
  rw [heq]
  exact ⟨found.map fun d => (d.2.1.messageId, d.2.2), hperm.map _, hsublist.map _⟩

end SyncGDSClient

end Gds
