import GdsSdk.Demo.Moves

/-!
# The history of a call

The events of one thread form a history of their own, which no other thread can change.  At every
program point of a call this history has a known shape: the call, the message that was handed over,
the registration under the identifier of the call, and after it only what comes to pass while the
call waits and leaves.
-/

namespace Gds

open Transition

namespace SyncGDSClient

/-- The thread that an event belongs to. -/
def Event.thread : Event → ℕ
  | called i _ | handed i _ | registered i _ | elapsed i | cleanedUp i | delivered i _ _
  | returned i _ | threw i _ => i

/-- The events that come after the registration of a call. -/
def Event.isLate : Event → Bool
  | elapsed _ | cleanedUp _ | returned _ _ | threw _ _ => true
  | _ => false

/-- The events with which a thread starts. -/
def Event.isStart : Event → Bool
  | called _ _ | delivered _ _ _ => true
  | _ => false

/-- The history of one thread, newest first. -/
def history (i : ℕ) (log : List Event) : List Event := log.filter fun e => e.thread = i

section History

variable {i j : ℕ} {e : Event} {log : List Event}

lemma history_cons :
    history i (e :: log) = if e.thread = i then e :: history i log else history i log := by
  rw [history, List.filter_cons]
  simp only [decide_eq_true_eq]
  rfl

/-- The events of a thread are in its history. -/
lemma mem_history (h : e.thread = i) : e ∈ history i log ↔ e ∈ log := by
  simp [history, h]

/-- A history goes on with events of one thread. -/
def Extends (i : ℕ) (log log' : List Event) : Prop :=
  ∃ newer, (∀ e ∈ newer, e.thread = i) ∧ log' = newer ++ log

lemma Extends.refl (i : ℕ) (log : List Event) : Extends i log log := ⟨[], by simp, rfl⟩

lemma Extends.cons {log' : List Event} (h : Extends i log log') (he : e.thread = i) :
    Extends i log (e :: log') := by
  obtain ⟨newer, hnewer, rfl⟩ := h
  exact ⟨e :: newer, List.forall_mem_cons.mpr ⟨he, hnewer⟩, rfl⟩

namespace Extends

variable {log' : List Event}

/-- Nothing is forgotten. -/
lemma mem (h : Extends i log log') (he : e ∈ log) : e ∈ log' := by
  obtain ⟨newer, -, rfl⟩ := h
  exact List.mem_append_right _ he

/-- What is new is an event of the thread. -/
lemma mem_or (h : Extends i log log') (he : e ∈ log') : e ∈ log ∨ e.thread = i := by
  obtain ⟨newer, hnewer, rfl⟩ := h
  rcases List.mem_append.mp he with he | he
  · exact .inr (hnewer e he)
  · exact .inl he

/-- The history of another thread does not change. -/
lemma history_eq (h : Extends i log log') (hj : j ≠ i) : history j log' = history j log := by
  obtain ⟨newer, hnewer, rfl⟩ := h
  have hnone : newer.filter (fun e => e.thread = j) = [] := by
    refine List.filter_eq_nil_iff.mpr fun e he => ?_
    rw [hnewer e he, decide_eq_true_eq]
    exact hj.symm
  rw [history, List.filter_append, hnone]
  rfl

end Extends

end History

/-- The client makes the binary of the call. -/
def Call.Sends (cfg : Config) (c : Call) (binary : List UInt8) : Prop :=
  ∃ tested shown stamp, c.send cfg tested shown stamp = .ok binary

/-- The history of a call that was registered. -/
def Registered (cfg : Config) (i : ℕ) (c : Call) (own : List Event) : Prop :=
  ∃ newer binary, (∀ e ∈ newer, e.isLate = true) ∧ c.Sends cfg binary ∧
    own = newer ++ [.registered i c.messageId, .handed i binary, .called i c]

/-- The history of a call at a program point. -/
def CallHistory (cfg : Config) (i : ℕ) (c : Call) (own : List Event) : CallPc → Prop
  | .send => own = [.called i c]
  | .tryAdd => ∃ binary, c.Sends cfg binary ∧ own = [.handed i binary, .called i c]
  | .result => Registered cfg i c own ∧ .cleanedUp i ∈ own
  | .delay | .whenAny _ | .wait | .tryRemove _ | .catchRemove _ => Registered cfg i c own

/-- What is known of the history of a thread. -/
def Knows (cfg : Config) (sh : Shared) (i : ℕ) : Option Pc → Prop
  | none => history i sh.log = []
  | some (.call c pc) => CallHistory cfg i c (history i sh.log) pc
  | some (.onAck _) | some (.onConnectionFailure _) =>
    ∀ key, .registered i key ∉ history i sh.log
  | some .done =>
    (∀ key, .registered i key ∉ history i sh.log) ∨ ∃ c, Registered cfg i c (history i sh.log)

/-- A late event leaves a call registered. -/
lemma Registered.cons {cfg : Config} {i : ℕ} {c : Call} {e : Event} {log : List Event}
    (h : Registered cfg i c (history i log)) (hthread : e.thread = i) (he : e.isLate = true) :
    Registered cfg i c (history i (e :: log)) := by
  obtain ⟨newer, binary, hnewer, hbinary, hown⟩ := h
  rw [history_cons, if_pos hthread, hown]
  exact ⟨e :: newer, binary, List.forall_mem_cons.mpr ⟨he, hnewer⟩, hbinary, rfl⟩

namespace Shared

variable (sh : Shared) (task : ℕ) (completion : Completion)

@[simp] lemma trySet_log : (sh.trySet task completion).log = sh.log := by
  unfold trySet
  split <;> rfl

@[simp] lemma trySet_pendingMessages :
    (sh.trySet task completion).pendingMessages = sh.pendingMessages := by
  unfold trySet
  split <;> rfl

/-- Only the one key is removed. -/
lemma lookup_remove {key messageId : String} {k : ℕ} :
    (sh.remove messageId).pendingMessages.lookup key = some k ↔
      key ≠ messageId ∧ sh.pendingMessages.lookup key = some k := by
  by_cases hkey : key = messageId
  · subst hkey
    simp [AList.lookup_erase]
  · simp [AList.lookup_erase_ne hkey, hkey]

/-- Only the one key is registered. -/
lemma lookup_register {key messageId : String} {i k : ℕ} :
    (sh.register i messageId).pendingMessages.lookup key = some k ↔
      (key = messageId ∧ k = i) ∨
        (key ≠ messageId ∧ sh.pendingMessages.lookup key = some k) := by
  by_cases hkey : key = messageId
  · subst hkey
    simp [AList.lookup_insert, eq_comm]
  · simp [AList.lookup_insert_ne hkey, hkey]

/-- A task that is completed stays so. -/
lemma tasks_trySet_of_some {k : ℕ} {x : Completion} (h : sh.tasks k = some x) :
    (sh.trySet task completion).tasks k = some x := by
  unfold trySet
  split
  · exact h
  · rename_i hnone
    have hne : k ≠ task := by
      rintro rfl
      rw [hnone] at h
      cases h
    simpa [Function.update_of_ne hne] using h

/-- A task that is not completed is completed now. -/
lemma tasks_trySet_of_none (h : sh.tasks task = none) :
    (sh.trySet task completion).tasks task = some completion := by
  simp [trySet, h]

/-- Only the one task is completed. -/
lemma tasks_trySet_cases {k : ℕ} {x : Completion}
    (h : (sh.trySet task completion).tasks k = some x) :
    sh.tasks k = some x ∨ k = task ∧ x = completion := by
  unfold trySet at h
  split at h
  · exact .inl h
  · simp only [Function.update_apply] at h
    split_ifs at h with hk
    · exact .inr ⟨hk, (Option.some.inj h).symm⟩
    · exact .inl h

end Shared

variable {cfg : Config} {n i j : ℕ} {sh sh' : Shared} {l : Label} {pc pc' : Pc}

/-- A thread that starts adds events of its own to the history. -/
lemma Start.extends_log (h : Start n sh l sh' pc') : Extends n sh.log sh'.log := by
  cases h with
  | failed => exact .refl _ _
  | _ => exact (Extends.refl _ _).cons rfl

/-- What is known of a thread that starts. -/
lemma Start.knows (h : Start n sh l sh' pc') (hn : history n sh.log = []) :
    Knows cfg sh' n (some pc') := by
  cases h with
  | rejected =>
    refine .inl fun key => ?_
    simp [history_cons, Event.thread, hn]
  | called => simp [Knows, CallHistory, history_cons, Event.thread, hn]
  | delivered =>
    intro key
    simp [history_cons, Event.thread, hn]
  | failed =>
    intro key
    simp [hn]

namespace Move

/-- A thread that moves adds events of its own to the history, and none with which it could
start. -/
lemma log_eq (h : Move cfg i sh pc sh' pc') : ∃ newer,
    (∀ e ∈ newer, e.thread = i ∧ e.isStart = false) ∧ sh'.log = newer ++ sh.log := by
  cases h with
  | throws => exact ⟨[_, _], by simp [Event.thread, Event.isStart], rfl⟩
  | ackSets | failureSets => exact ⟨[], by simp, by rw [Shared.trySet_log]; rfl⟩
  | _ => first
    | exact ⟨[], by simp, rfl⟩
    | exact ⟨[_], by simp [Event.thread, Event.isStart], rfl⟩

lemma extends_log (h : Move cfg i sh pc sh' pc') : Extends i sh.log sh'.log := by
  obtain ⟨newer, hnewer, heq⟩ := h.log_eq
  exact ⟨newer, fun e he => (hnewer e he).1, heq⟩

/-- What is known of a thread that moves. -/
lemma knows (h : Move cfg i sh pc sh' pc') (hpc : Knows cfg sh i (some pc)) :
    Knows cfg sh' i (some pc') := by
  cases h with
  | sendFails c e =>
    have hown : history i sh.log = [.called i c] := hpc
    refine .inl fun key => ?_
    simp [history_cons, Event.thread, hown]
  | hands c tested shown stamp binary hsend =>
    have hown : history i sh.log = [.called i c] := hpc
    refine ⟨binary, ⟨tested, shown, stamp, hsend⟩, ?_⟩
    simp [history_cons, Event.thread, hown]
  | duplicate c _ e =>
    obtain ⟨binary, -, hown⟩ := hpc
    refine .inl fun key => ?_
    simp [history_cons, Event.thread, hown]
  | registers c =>
    obtain ⟨binary, hbinary, hown⟩ := hpc
    refine ⟨[], binary, by simp, hbinary, ?_⟩
    simp [history_cons, Event.thread, hown]
  | delayThrows | delays | completedBefore | elapsedBefore | waits | waitEnds => exact hpc
  | timerElapses | waitElapses | timesOut => exact Registered.cons hpc rfl rfl
  | cleansUp =>
    refine ⟨Registered.cons hpc rfl rfl, ?_⟩
    simp [history_cons, Event.thread]
  | returns c ack => exact .inr ⟨c, Registered.cons hpc.1 rfl rfl⟩
  | castThrows | rethrows => exact hpc.1
  | throws c e => exact .inr ⟨c, Registered.cons (Registered.cons hpc rfl rfl) rfl rfl⟩
  | ackThrows header ack e =>
    refine .inl fun key => ?_
    simpa [history_cons, Event.thread] using hpc key
  | ackMisses | clears => exact .inl hpc
  | ackSets task ack =>
    refine .inl fun key => ?_
    rw [Shared.trySet_log]
    exact hpc key
  | failureSets e task unseen =>
    intro key
    rw [Shared.trySet_log]
    exact hpc key
  | _ => exact hpc

end Move

variable {s : Wrapper} {ok : Guard Wrapper Label}

/-- What is known of the history of every thread. -/
theorem calls (h : (system cfg).Reachable ok s) : s.Numbered (Knows cfg) := by
  refine h.invariant (I := fun s => s.Numbered (Knows cfg)) (fun i => rfl) ?_
  intro s l s' hs _ hstep
  -- what is known of a thread depends on its own history only
  have hcongr : ∀ {sh sh' : Shared} {j : ℕ} {q : Option Pc},
      history j sh'.log = history j sh.log → Knows cfg sh j q → Knows cfg sh' j q := by
    intro sh sh' j q heq hq
    rcases q with _ | _ | _ | _ | _ <;> simpa only [Knows, heq] using hq
  rcases step_cases hstep with ⟨sh', pc', -, hstart, rfl⟩ | ⟨i, pc, sh', pc', -, hpc, hm, rfl⟩
  · exact hs.spawn (hstart.knows hs.fresh) fun j hj => hcongr (hstart.extends_log.history_eq hj)
  · exact hs.set hpc (hm.knows (hs.at hpc)) fun j hj => hcongr (hm.extends_log.history_eq hj)

/-- A thread with a registration in its history is that of a call that was registered. -/
lemma Knows.registered {q : Option Pc} {key : String} (h : Knows cfg sh i q)
    (hmem : .registered i key ∈ history i sh.log) : ∃ c, Registered cfg i c (history i sh.log) := by
  rcases q with _ | ⟨c, pc⟩ | _ | _ | _
  · rw [show history i sh.log = [] from h] at hmem
    cases hmem
  · cases pc with
    | send =>
      rw [show history i sh.log = [.called i c] from h] at hmem
      simp at hmem
    | tryAdd =>
      obtain ⟨binary, -, hown⟩ := h
      rw [hown] at hmem
      simp at hmem
    | result => exact ⟨c, h.1⟩
    | _ => exact ⟨c, h⟩
  · exact absurd hmem (h key)
  · exact absurd hmem (h key)
  · rcases h with h | h
    · exact absurd hmem (h key)
    · exact h

/-- The history of a registered call as a whole. -/
theorem registered_of_mem (h : (system cfg).Reachable ok s) {key : String}
    (hkey : .registered i key ∈ s.shared.log) :
    ∃ c, c.messageId = key ∧ Registered cfg i c (history i s.shared.log) := by
  have hmem : .registered i key ∈ history i s.shared.log := (mem_history rfl).mpr hkey
  obtain ⟨c, newer, binary, hnewer, hbinary, hown⟩ := (calls h i).registered hmem
  refine ⟨c, ?_, newer, binary, hnewer, hbinary, hown⟩
  rw [hown, List.mem_append] at hmem
  rcases hmem with hmem | hmem
  · cases hnewer _ hmem
  · simp only [List.mem_cons, Event.registered.injEq, reduceCtorEq, List.not_mem_nil, or_false,
      true_and] at hmem
    exact hmem.symm

end SyncGDSClient

end Gds
