import GdsSdk.Demo.Finishing

/-!
# No call of a session hangs

Once nothing more comes from outside, the calls of the user, the requests, the callbacks of the
socket and those of the listener have only so many steps before them, in whatever order they take
them: every step leaves less to do, also one that calls the listener or the client, unless a loop of
`OnConnectionFailure` comes to an entry.  Where none of them can go on all have come to their ends.
-/

namespace Gds

open Transition

namespace SyncGDSClient

namespace Session

variable {cfg : Config} {s s' : Session} {i : ℕ}

/-- Any order of calls, events and steps. -/
def AnyOrder : Guard Session Label := fun _ _ => True

instance (s : Session) (l : Label) : Decidable (AnyOrder s l) :=
  inferInstanceAs (Decidable True)

/-- What is in progress goes on, and nothing more comes from outside. -/
def InProgress : Guard Session Label := fun _ l =>
  match l with
  | .send _ _ | .client _ _ | .wrapper _ => True
  | .connect | .close | .testDisposed | .closeDisposed | .request _ _ | .raise _ => False

/-- The loop of a callback of the wrapper comes to an entry. -/
def Label.isVisit : Label → Bool
  | .wrapper l => l.isVisit
  | _ => false

/-! ## What is to do -/

/-- A move of the client takes as many requests past their sends as threads out of
`SendMessage`. -/
lemma Moved.unsent_add {client : Client} (hs : Linked cfg s) (h : Moved cfg s i client s') :
    unsent s'.wrapper + s.client.threads.countP Gds.Pc.isSendMessage =
      unsent s.wrapper + client.threads.countP Gds.Pc.isSendMessage := by
  cases h with
  | listens new pc pc' sh' hpc hclient hcaller hsend hlog hlength hsent s' h =>
    subst hclient
    have hnot : pc.isSendMessage = false := by
      by_contra hsends
      have hsome := hs.sends i pc hpc (by simpa using hsends)
      rw [hcaller] at hsome
      cases hsome
    have hset := Pool.countP_set_add Gds.Pc.isSendMessage pc' hpc
    rw [hnot, hsend] at hset
    rw [h.unsent_eq]
    exact congrArg _ hset.symm
  | goesOn j c stamp q q' hcaller hj hi hserves hclient =>
    subst hclient
    have hset := Pool.countP_set_add Gds.Pc.isSendMessage (.sendMessage q') hi
    exact congrArg _ (Nat.add_right_cancel hset).symm
  | replies j c stamp q tested shown hcaller hj hi hclient wrapper hwrapper =>
    subst hclient
    obtain ⟨pc, shared, pc', hpc, hresume, rfl⟩ := Pool.move_eq_some.mp hwrapper
    cases hj.symm.trans hpc
    have hpc' : pc'.isSend = false := by
      cases hsend : c.send cfg tested shown stamp <;> rw [hsend] at hresume <;> cases hresume <;>
        rfl
    have hset := Pool.countP_set_add Pc.isSend pc' hj
    have hset' := Pool.countP_set_add Gds.Pc.isSendMessage .done hi
    have hone : (Pc.call c .send).isSend.toNat = 1 := rfl
    have hone' : (Gds.Pc.sendMessage q).isSendMessage.toNat = 1 := rfl
    have hzero' : Gds.Pc.done.isSendMessage.toNat = 0 := rfl
    rw [hpc', hone] at hset
    rw [hone', hzero'] at hset'
    simp only [unsent, Bool.toNat_false] at hset ⊢
    omega

/-- The client of a session takes every step that it could take by itself. -/
lemma exists_client_step {l : Gds.Label} {client : Client} (hs : Linked cfg s)
    (hl : l.thread = some i) (h : AsyncGDSClient.step cfg s.client l = some client) :
    ∃ s', step cfg s (.client l "") = some s' ∧ Moved cfg s i client s' := by
  refine ⟨_, ?_, moved hs hl h ""⟩
  have hthread : l.thread ≠ none := by
    rw [hl]
    simp
  simp only [step, if_neg hthread, h, Option.map_some]

/-- What is to do before all requests are sent and the client is at rest. -/
def toDo (s : Session) : ℕ :=
  3 * (unsent s.wrapper - s.client.threads.countP Gds.Pc.isSendMessage) + s.client.work Gds.Pc.rank

/-- What is to do before the client and the wrapper are at rest.  A step of the client may call the
listener twice, and no callback has more than three steps before it. -/
def remaining (s : Session) : ℕ := 7 * s.toDo + s.wrapper.work Pc.rank

/-- While a request waits to be sent, fewer threads of the client are in `SendMessage` than requests
have still to be sent. -/
lemma countP_lt_unsent {j : ℕ} {c : Call} (hs : Linked cfg s)
    (hj : s.wrapper.threads[j]? = some (.call c .send))
    (hfree : ∀ i < s.client.threads.length, s.caller i ≠ some j) :
    s.client.threads.countP Gds.Pc.isSendMessage < unsent s.wrapper := by
  have hworks : ∀ i ∈ Pool.places Gds.Pc.isSendMessage s.client.threads, ∃ k c',
      s.caller i = some k ∧ s.wrapper.threads[k]? = some (.call c' .send) := by
    intro i hi
    obtain ⟨pc, hpc, hsends⟩ := Pool.mem_places.mp hi
    obtain ⟨k, hk⟩ := Option.isSome_iff_exists.mp (hs.sends i pc hpc hsends)
    rcases hs.link i k hk with ⟨hdone, -⟩ | ⟨c', _, _, hk', -⟩
    · cases hpc.symm.trans hdone
      cases hsends
    · exact ⟨k, c', hk, hk'⟩
  refine Pool.countP_lt_countP (j := j) (fun i => (s.caller i).getD 0) (fun i hi => ?_)
    (fun i hi i' hi' heq => ?_) (Pool.mem_places.mpr ⟨_, hj, rfl⟩) fun i hi heq => ?_
  · obtain ⟨k, c', hk, hk'⟩ := hworks i hi
    rw [hk]
    exact Pool.mem_places.mpr ⟨_, hk', rfl⟩
  · obtain ⟨k, -, hk, -⟩ := hworks i hi
    obtain ⟨k', -, hk', -⟩ := hworks i' hi'
    rw [hk, hk'] at heq
    cases heq
    exact hs.distinct i i' k hk hk'
  · obtain ⟨k, -, hk, -⟩ := hworks i hi
    rw [hk] at heq
    cases heq
    obtain ⟨pc, hpc, -⟩ := Pool.mem_places.mp hi
    exact hfree i (List.getElem?_eq_some_iff.mp hpc).1 hk

/-- A callback has at most three steps before it. -/
lemma rank_le_of_isCallback {pc : Pc} (h : pc.isCallback = true) : pc.rank ≤ 3 := by
  cases pc with
  | call | done => cases h
  | onAck q => cases q <;> simp [Pc.rank]
  | onConnectionFailure q => cases q <;> simp [Pc.rank]

/-- A move of the client leaves the wrapper with two callbacks more at most. -/
lemma Moved.work_le {client : Client} (h : Moved cfg s i client s') :
    s'.wrapper.work Pc.rank ≤ s.wrapper.work Pc.rank + 6 := by
  cases h with
  | listens new pc pc' sh' hpc hclient hcaller hsend hlog hlength hsent s' h =>
    obtain ⟨started, hthreads, hstarted, hcallbacks⟩ := h.callbacks
    have hsum : (started.map Pc.rank).sum ≤ (started.map Pc.rank).length • 3 := by
      refine List.sum_le_card_nsmul _ 3 fun n hn => ?_
      obtain ⟨pc, hpc, rfl⟩ := List.mem_map.mp hn
      exact rank_le_of_isCallback (hcallbacks pc hpc)
    rw [List.length_map, smul_eq_mul] at hsum
    simp only [Pool.work, hthreads, List.map_append, List.sum_append]
    omega
  | goesOn => exact Nat.le_add_right _ _
  | replies j c stamp q tested shown hcaller hj hi hclient wrapper hwrapper =>
    obtain ⟨pc, shared, pc', hpc, hresume, rfl⟩ := Pool.move_eq_some.mp hwrapper
    cases hj.symm.trans hpc
    have hlt : pc'.rank < (Pc.call c .send).rank := by
      cases hsend : c.send cfg tested shown stamp <;> rw [hsend] at hresume <;> cases hresume <;>
        simp [Pc.rank]
    have hwork : Pool.work Pc.rank ⟨shared, s.wrapper.threads.set j pc'⟩ <
        s.wrapper.work Pc.rank := Pool.work_set_lt hj hlt
    exact Nat.le_add_right_of_le (Nat.le_of_lt hwork)

/-- What is in progress has less before it after every step, unless a loop comes to an entry. -/
lemma remaining_step {l : Label} (hs : Linked cfg s) (hok : InProgress s l)
    (h : step cfg s l = some s') : s'.remaining + 1 ≤ s.remaining + 2 * l.isVisit.toNat := by
  cases l with
  | connect | close | testDisposed | closeDisposed | request | raise => cases hok
  | send j stamp =>
    simp only [step] at h
    split at h
    · rename_i c hj
      split_ifs at h with hbusy
      cases h
      have hlt := countP_lt_unsent hs hj fun i hi heq => hbusy ⟨i, hi, heq⟩
      have hrank : ((Gds.Call.send (c.request.send c.messageId) stamp).start cfg).rank = 2 := rfl
      have hsends : ((Gds.Call.send (c.request.send c.messageId)
          stamp).start cfg).isSendMessage = true := rfl
      simp only [remaining, toDo, Pool.work_spawn, hrank]
      simp only [Pool.spawn, Pool.countP_append_singleton, hsends, Bool.toNat_true]
      omega
    · cases h
  | client l text =>
    simp only [step] at h
    split_ifs at h with hl
    obtain ⟨client, hclient, rfl⟩ := Option.map_eq_some_iff.mp h
    obtain ⟨i, hi⟩ := Option.ne_none_iff_exists'.mp hl
    have hmoved := moved hs hi hclient text
    have hadd := hmoved.unsent_add hs
    have hwork := hmoved.work_le
    have hlt := AsyncGDSClient.work_lt hl hclient
    simp only [remaining, toDo, hmoved.client_eq]
    omega
  | wrapper l =>
    simp only [step] at h
    split_ifs at h with hown
    obtain ⟨wrapper, hwrapper, rfl⟩ := Option.map_eq_some_iff.mp h
    have hwork := work_step (thread_of_isOwn hown) hwrapper
    simp only [remaining, toDo, unsent_own hown hwrapper, Label.isVisit]
    omega

/-! ## Where a session can go on -/

/-- The wrapper of a session takes a step of its own as it does by itself. -/
lemma step_wrapper {l : SyncGDSClient.Label} {wrapper : Wrapper} (hown : isOwn l = true)
    (h : SyncGDSClient.step cfg s.wrapper l = some wrapper) :
    step cfg s (.wrapper l) = some { s with wrapper } := by
  simp only [step, if_pos hown, h, Option.map_some]

/-- A request that has still to be sent calls the client, if no thread of the client is in
progress. -/
lemma exists_send_step {j : ℕ} {c : Call} (hs : Linked cfg s)
    (hj : s.wrapper.threads[j]? = some (.call c .send))
    (hdone : ∀ pc ∈ s.client.threads, pc = .done) :
    ∃ s', step cfg s (.send j ⟨"", 0, 0⟩) = some s' := by
  have hfree : ¬ ∃ i < s.client.threads.length, s.caller i = some j := by
    rintro ⟨i, -, hcaller⟩
    rcases hs.link i j hcaller with ⟨-, pc, hpc, hne⟩ | ⟨c', stamp, q, -, hi, -⟩
    · cases hj.symm.trans hpc
      exact hne c rfl
    · cases hdone _ (List.mem_of_getElem? hi)
  simp only [step, hj, if_neg hfree]
  exact ⟨_, rfl⟩

/-- As long as the client is not at rest or a request is to be sent, one of these goes on. -/
lemma exists_client_progress (hs : Linked cfg s)
    (hbusy : ¬ ((∀ pc ∈ s.client.threads, pc = .done) ∧ unsent s.wrapper = 0)) :
    ∃ l s', InProgress s l ∧ l.isVisit = false ∧ step cfg s l = some s' := by
  by_cases hdone : ∀ pc ∈ s.client.threads, pc = .done
  · -- a request is sent
    have hunsent : unsent s.wrapper ≠ 0 := fun hzero => hbusy ⟨hdone, hzero⟩
    obtain ⟨pc, hmem, hsend⟩ := List.countP_pos_iff.mp (Nat.pos_of_ne_zero hunsent)
    obtain ⟨j, hj⟩ := List.getElem?_of_mem hmem
    obtain ⟨c, rfl⟩ := Pc.isSend_iff.mp hsend
    obtain ⟨s', hstep⟩ := exists_send_step hs hj hdone
    exact ⟨.send j ⟨"", 0, 0⟩, s', trivial, rfl, hstep⟩
  · -- a thread of the client moves
    obtain ⟨pc, hmem, hne⟩ : ∃ pc ∈ s.client.threads, pc ≠ .done := by
      by_contra hnone
      exact hdone fun pc hpc => by_contra fun hne => hnone ⟨pc, hpc, hne⟩
    obtain ⟨i, hpc⟩ := List.getElem?_of_mem hmem
    obtain ⟨l, client, hl, hclient⟩ := AsyncGDSClient.exists_move cfg hpc hne
    obtain ⟨s', hstep, -⟩ := exists_client_step hs hl hclient
    exact ⟨.client l "", s', trivial, rfl, hstep⟩

/-- A session that can go on no longer is at rest. -/
lemma atRest_of_stuck (h : (system cfg).Reachable AnyOrder s)
    (hstuck : ∀ l, InProgress s l → step cfg s l = none) :
    (∀ pc ∈ s.client.threads, pc = .done) ∧ AtRest s.wrapper := by
  have hs := linked h
  have hreach := wrapper_reachable h
  obtain ⟨hdone, hsent⟩ :
      (∀ pc ∈ s.client.threads, pc = .done) ∧ unsent s.wrapper = 0 := by
    by_contra hbusy
    obtain ⟨l, s', hok, -, hstep⟩ := exists_client_progress hs hbusy
    rw [hstuck l hok] at hstep
    cases hstep
  refine ⟨hdone, atRest hreach fun pc hpc => ?_⟩
  by_contra hne
  obtain ⟨j, hj⟩ := List.getElem?_of_mem hpc
  have hsend : pc.isSend = false := by
    have hnone := List.countP_eq_zero.mp hsent pc hpc
    simpa using hnone
  obtain ⟨l, wrapper, hown, -, hstep⟩ := exists_own hreach hj hne hsend
  have hnext := step_wrapper hown hstep
  rw [hstuck (.wrapper l) trivial] at hnext
  cases hnext

/-! ## A session comes to rest -/

/-- The client of a session comes to rest, and all requests are sent. -/
lemma exists_client_rest (h : (system cfg).Reachable AnyOrder s) :
    ∃ s', (system cfg).Reaches InProgress s s' ∧ (system cfg).Reachable AnyOrder s' ∧
      (∀ pc ∈ s'.client.threads, pc = .done) ∧ unsent s'.wrapper = 0 := by
  have hnext : ∀ s : Session, (system cfg).Reachable AnyOrder s →
      ¬ ((∀ pc ∈ s.client.threads, pc = .done) ∧ unsent s.wrapper = 0) →
      ∃ s', (system cfg).Reaches InProgress s s' ∧ (system cfg).Reachable AnyOrder s' ∧
        s'.remaining < s.remaining := by
    intro s hreach hbusy
    have hs := linked hreach
    obtain ⟨l, s', hok, hvisit, hstep⟩ := exists_client_progress hs hbusy
    have hless := remaining_step hs hok hstep
    rw [hvisit] at hless
    exact ⟨s', (System.Reaches.refl s).step hok hstep, hreach.step trivial hstep, hless⟩
  obtain ⟨s', hrun, hreach, hdone, hsent⟩ := System.exists_rest _ _ _ hnext h
  exact ⟨s', hrun, hreach, hdone, hsent⟩

/-- The wrapper of a session takes every step of its own that it could take by itself. -/
lemma reaches_of_wrapper {w : Wrapper}
    (h : (SyncGDSClient.system cfg).Reaches OwnMoves s.wrapper w) :
    (system cfg).Reaches InProgress s { s with wrapper := w } := by
  refine h.invariant (I := fun w => (system cfg).Reaches InProgress s { s with wrapper := w }) ?_
    (System.Reaches.refl s)
  intro w l w' hreach hown hstep
  have hnext : step cfg { s with wrapper := w } (.wrapper l) = some { s with wrapper := w' } :=
    step_wrapper hown hstep
  exact hreach.step (l := .wrapper l) trivial hnext

/-- A session comes to rest when nothing more comes from outside. -/
lemma exists_rest (h : (system cfg).Reachable AnyOrder s) :
    ∃ s', (system cfg).Reaches InProgress s s' ∧
      (∀ pc ∈ s'.client.threads, pc = .done) ∧ AtRest s'.wrapper := by
  obtain ⟨t, hfirst, ht, hdone, hsent⟩ := exists_client_rest h
  obtain ⟨w, hrest, hrested⟩ := exists_rest_of_sent (wrapper_reachable ht) hsent
  have hrun := reaches_of_wrapper hrest
  have hend := ht.reaches (hrun.mono fun _ _ _ => trivial)
  exact ⟨_, hfirst.trans hrun, hdone, atRest (wrapper_reachable hend) hrested⟩

end Session

end SyncGDSClient

end Gds
