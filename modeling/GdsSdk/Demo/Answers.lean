import GdsSdk.Demo.Phases

/-!
# What the phases tell

While every acknowledgement is heard, the program point of a request tells its phase, and the answer
to a request is always on its way: the callback is about to look the request up and will find it, or
it is about to complete its task, or the task is completed with it.  What a thread knows of the
phases is left to it by the steps of the others.
-/

namespace Gds

open Transition

namespace SyncGDSClient

/-- The thread that an event brings to its end. -/
def Event.ended : Event → Option ℕ
  | returned i _ | threw i _ => some i
  | _ => none

/-- The request was answered in time. -/
def Phase.IsAnswered (p : Phase) (c : Call) : Prop := ∃ j ack, p = .answered c j ack

/-- The phase of a request at a program point.  While it is open and registered its entry is
there. -/
def CallPhase (sh : Shared) (i : ℕ) (c : Call) : CallPc → Prop
  | .send => phase i sh.log = .begun c ∧ ∀ key, sh.pendingMessages.lookup key ≠ some i
  | .tryAdd => (phase i sh.log = .opened c ∨ (phase i sh.log).IsAnswered c) ∧
    ∀ key, sh.pendingMessages.lookup key ≠ some i
  | .delay | .whenAny false | .wait =>
    (phase i sh.log = .opened c ∧ sh.pendingMessages.lookup c.messageId = some i) ∨
      (phase i sh.log).IsAnswered c
  | .whenAny true => phase i sh.log = .missed c ∨ (phase i sh.log).IsAnswered c
  | .tryRemove false | .result => (sh.tasks i).isSome = true ∧
    (phase i sh.log = .missed c ∨ (phase i sh.log).IsAnswered c)
  | .tryRemove true | .catchRemove _ => phase i sh.log = .missed c

/-- What the phases tell of a thread. -/
def KnowsPhase (sh : Shared) (i : ℕ) : Option Pc → Prop
  | none => phase i sh.log = .absent ∧ (∀ e ∈ sh.log, e.ended ≠ some i) ∧
    ∀ k, (phase k sh.log).answer ≠ some i
  | some (.call c pc) => (∀ e ∈ sh.log, e.ended ≠ some i) ∧ CallPhase sh i c pc
  | some (.onAck (.tryRemove header ack)) => phase i sh.log = .absent ∧
    (∀ e ∈ sh.log, e.ended ≠ some i) ∧
    ∀ k c ack', phase k sh.log = .answered c i ack' →
      ack' = ack ∧ header.messageId = some c.messageId
  | some (.onAck (.trySetResult k ack)) => phase i sh.log = .absent ∧
    (∀ e ∈ sh.log, e.ended ≠ some i) ∧
    ∃ c, phase k sh.log = .missed c ∨ phase k sh.log = .answered c i ack
  | some (.onConnectionFailure _) => False
  | some .done => (phase i sh.log).isOpened = false ∧
    ∀ c j ack, phase i sh.log = .answered c j ack →
      .returned i ack ∈ sh.log ∧ ∀ e ∈ sh.log, e.ended = some i → e = .returned i ack

/-- What the phases tell of the shared state. -/
structure Ledger (sh : Shared) : Prop where
  /-- A request that was answered in time has its task completed with the answer. -/
  tasks : ∀ k completion, sh.tasks k = some completion → (∃ c, phase k sh.log = .missed c) ∨
    ∃ c j ack, phase k sh.log = .answered c j ack ∧ completion = .result ack
  entries : ∀ key k, sh.pendingMessages.lookup key = some k →
    ∃ c, (phase k sh.log).sent = some c ∧ c.messageId = key
  distinct : ∀ k k' c c', (phase k sh.log).call = some c → (phase k' sh.log).call = some c' →
    c.messageId = c'.messageId → k = k'
  timeout : ∀ k c, (phase k sh.log).call = some c →
    c.request.timeout.totalMilliseconds ≤ maxDelay

/-- The answer of a request is on its way. -/
def Due (s : Wrapper) (i : ℕ) (c : Call) (j : ℕ) (ack : Ack) : Prop :=
  s.shared.tasks i = some (.result ack) ∨
  s.threads[j]? = some (.onAck (.trySetResult i ack)) ∨
  ∃ header, s.threads[j]? = some (.onAck (.tryRemove header ack)) ∧
    (s.threads[i]? = some (.call c .tryAdd) ∨
      s.shared.pendingMessages.lookup c.messageId = some i)

/-- The threads and the shared state agree with the phases, and every answer is on its way. -/
structure Answers (s : Wrapper) : Prop where
  ledger : Ledger s.shared
  knows : s.Numbered KnowsPhase
  due : ∀ i c j ack, phase i s.shared.log = .answered c j ack → Due s i c j ack

section Facts

variable {sh : Shared} {i j : ℕ} {c : Call} {ack : Ack} {q : Option Pc}

lemma Phase.call_of_sent {p : Phase} (h : p.sent = some c) : p.call = some c := by
  cases p with
  | absent | begun => cases h
  | _ => exact h

lemma Phase.IsAnswered.call {p : Phase} (h : p.IsAnswered c) : p.call = some c := by
  obtain ⟨j, ack, rfl⟩ := h
  rfl

/-- A request that was answered in time stays so. -/
lemma Extends.isAnswered {n : ℕ} {log log' : List Event} (h : Extends n log log')
    (hphase : (phase i log).IsAnswered c) : (phase i log').IsAnswered c := by
  obtain ⟨j, ack, heq⟩ := hphase
  exact ⟨j, ack, h.phase_eq heq rfl⟩

/-- An event that ends no thread leaves a thread that has not come to its end. -/
lemma unended_cons {e : Event} {log : List Event} (he : e.ended = none)
    (hlog : ∀ e ∈ log, e.ended ≠ some i) : ∀ e' ∈ e :: log, e'.ended ≠ some i := by
  refine List.forall_mem_cons.mpr ⟨?_, hlog⟩
  rw [he]
  exact (Option.some_ne_none i).symm

/-- A call in progress is the call of its phase. -/
lemma CallPhase.call {pc : CallPc} (h : CallPhase sh i c pc) : (phase i sh.log).call = some c := by
  have hopened : phase i sh.log = .opened c → (phase i sh.log).call = some c := by
    intro heq
    rw [heq]
    rfl
  have hmissed : phase i sh.log = .missed c → (phase i sh.log).call = some c := by
    intro heq
    rw [heq]
    rfl
  match pc, h with
  | .send, h =>
    rw [h.1]
    rfl
  | .tryAdd, h => exact h.1.elim hopened Phase.IsAnswered.call
  | .delay, h => exact h.elim (fun h => hopened h.1) Phase.IsAnswered.call
  | .whenAny false, h => exact h.elim (fun h => hopened h.1) Phase.IsAnswered.call
  | .wait, h => exact h.elim (fun h => hopened h.1) Phase.IsAnswered.call
  | .whenAny true, h => exact h.elim hmissed Phase.IsAnswered.call
  | .tryRemove false, h => exact h.2.elim hmissed Phase.IsAnswered.call
  | .result, h => exact h.2.elim hmissed Phase.IsAnswered.call
  | .tryRemove true, h => exact hmissed h
  | .catchRemove _, h => exact hmissed h

/-- An open request has still to register itself, or its entry is there. -/
lemma KnowsPhase.opened (h : KnowsPhase sh i q) (hphase : phase i sh.log = .opened c) :
    q = some (.call c .tryAdd) ∨ sh.pendingMessages.lookup c.messageId = some i := by
  have hmissed : ∀ c', phase i sh.log ≠ .missed c' := by simp [hphase]
  have hanswered : ∀ c', ¬ (phase i sh.log).IsAnswered c' := by
    rintro c' ⟨j, ack, heq⟩
    cases hphase.symm.trans heq
  match q, h with
  | none, h => cases hphase.symm.trans h.1
  | some (.onAck (.tryRemove _ _)), h => cases hphase.symm.trans h.1
  | some (.onAck (.trySetResult _ _)), h => cases hphase.symm.trans h.1
  | some .done, h =>
    have hclosed := h.1
    rw [hphase] at hclosed
    cases hclosed
  | some (.call c' pc), ⟨_, h⟩ =>
    obtain rfl : c = c' := by
      have hcall := h.call
      rw [hphase] at hcall
      exact Option.some.inj hcall
    match pc, h with
    | .send, h => cases hphase.symm.trans h.1
    | .tryAdd, _ => exact .inl rfl
    | .delay, h => exact .inr (h.resolve_right (hanswered c)).2
    | .whenAny false, h => exact .inr (h.resolve_right (hanswered c)).2
    | .wait, h => exact .inr (h.resolve_right (hanswered c)).2
    | .whenAny true, h => exact absurd h (not_or_intro (hmissed c) (hanswered c))
    | .tryRemove false, h => exact absurd h.2 (not_or_intro (hmissed c) (hanswered c))
    | .result, h => exact absurd h.2 (not_or_intro (hmissed c) (hanswered c))
    | .tryRemove true, h => exact absurd h (hmissed c)
    | .catchRemove _, h => exact absurd h (hmissed c)

/-- A request that was answered in time is brought to its end by its return only. -/
lemma KnowsPhase.ended (h : KnowsPhase sh i q) (hphase : phase i sh.log = .answered c j ack)
    {e : Event} (he : e ∈ sh.log) (hended : e.ended = some i) : e = .returned i ack := by
  match q, h with
  | none, h => exact absurd hended (h.2.1 e he)
  | some (.call _ _), h => exact absurd hended (h.1 e he)
  | some (.onAck (.tryRemove _ _)), h => exact absurd hended (h.2.1 e he)
  | some (.onAck (.trySetResult _ _)), h => exact absurd hended (h.2.1 e he)
  | some .done, h => exact (h.2 c j ack hphase).2 e he hended

end Facts

/-! ## Other threads -/

/-- What a thread knows of request `i` is left to it by a step of another thread: the phase changes
at most by an answer, and neither tasks nor entries are lost. -/
structure Frame (i : ℕ) (sh sh' : Shared) : Prop where
  changes : phase i sh'.log = phase i sh.log ∨
    ∃ c, phase i sh.log = .opened c ∧ (phase i sh'.log).IsAnswered c
  settled : ∀ k c, (phase k sh.log = .missed c → phase k sh'.log = .missed c) ∧
    ∀ j ack, phase k sh.log = .answered c j ack → phase k sh'.log = .answered c j ack
  answers : ∀ k c ack, phase k sh'.log = .answered c i ack → phase k sh.log = .answered c i ack
  log : ∃ newer, (∀ e ∈ newer, e.thread ≠ i) ∧ sh'.log = newer ++ sh.log
  tasks : (sh.tasks i).isSome = true → (sh'.tasks i).isSome = true
  entries : ∀ key, sh'.pendingMessages.lookup key = some i →
    sh.pendingMessages.lookup key = some i
  kept : ∀ c, phase i sh.log = .opened c →
    sh.pendingMessages.lookup c.messageId = some i →
    sh'.pendingMessages.lookup c.messageId = some i

namespace Frame

variable {i : ℕ} {sh sh' : Shared} {c : Call} {q : Option Pc}

/-- The end of a thread is known from its own events. -/
lemma unended (h : Frame i sh sh') (hlog : ∀ e ∈ sh.log, e.ended ≠ some i) :
    ∀ e ∈ sh'.log, e.ended ≠ some i := by
  obtain ⟨newer, hnewer, heq⟩ := h.log
  rw [heq]
  intro e he hended
  rcases List.mem_append.mp he with he | he
  · have hthread := hnewer e he
    cases e with
    | returned | threw => exact hthread (Option.some.inj hended)
    | _ => cases hended
  · exact hlog e he hended

/-- A phase other than the open one does not change. -/
lemma phase_eq (h : Frame i sh sh') (hopened : (phase i sh.log).isOpened = false) :
    phase i sh'.log = phase i sh.log := by
  rcases h.changes with heq | ⟨c, hphase, -⟩
  · exact heq
  · rw [hphase] at hopened
    cases hopened

lemma isAnswered (h : Frame i sh sh') (hphase : (phase i sh.log).IsAnswered c) :
    (phase i sh'.log).IsAnswered c := by
  obtain ⟨j, ack, heq⟩ := hphase
  exact ⟨j, ack, (h.settled i c).2 j ack heq⟩

/-- An open request stays open or is answered. -/
lemma opened (h : Frame i sh sh') (hphase : phase i sh.log = .opened c) :
    phase i sh'.log = .opened c ∨ (phase i sh'.log).IsAnswered c := by
  rcases h.changes with heq | ⟨c', hphase', hanswered⟩
  · exact .inl (heq.trans hphase)
  · cases hphase.symm.trans hphase'
    exact .inr hanswered

/-- The phase of a call at its program point. -/
lemma callPhase (h : Frame i sh sh') {pc : CallPc} (hpc : CallPhase sh i c pc) :
    CallPhase sh' i c pc := by
  have hmissed : phase i sh.log = .missed c →
      phase i sh'.log = .missed c := (h.settled i c).1
  have hwaits : (phase i sh.log = .opened c ∧
        sh.pendingMessages.lookup c.messageId = some i) ∨
        (phase i sh.log).IsAnswered c →
      (phase i sh'.log = .opened c ∧
        sh'.pendingMessages.lookup c.messageId = some i) ∨
        (phase i sh'.log).IsAnswered c := by
    rintro (⟨hopened, hlookup⟩ | hanswered)
    · exact (h.opened hopened).imp_left fun heq => ⟨heq, h.kept c hopened hlookup⟩
    · exact .inr (h.isAnswered hanswered)
  match pc, hpc with
  | .send, ⟨hphase, hentry⟩ =>
    refine ⟨(h.phase_eq (by rw [hphase]; rfl)).trans hphase, fun key hkey => ?_⟩
    exact hentry key (h.entries key hkey)
  | .tryAdd, ⟨hphase, hentry⟩ =>
    exact ⟨hphase.elim h.opened fun ha => .inr (h.isAnswered ha),
      fun key hkey => hentry key (h.entries key hkey)⟩
  | .delay, hpc => exact hwaits hpc
  | .whenAny false, hpc => exact hwaits hpc
  | .wait, hpc => exact hwaits hpc
  | .whenAny true, hpc => exact hpc.imp hmissed h.isAnswered
  | .tryRemove false, hpc => exact ⟨h.tasks hpc.1, hpc.2.imp hmissed h.isAnswered⟩
  | .result, hpc => exact ⟨h.tasks hpc.1, hpc.2.imp hmissed h.isAnswered⟩
  | .tryRemove true, hpc => exact hmissed hpc
  | .catchRemove _, hpc => exact hmissed hpc

/-- What the phases tell of a thread, another one does not change. -/
lemma knowsPhase (h : Frame i sh sh') (hq : KnowsPhase sh i q) : KnowsPhase sh' i q := by
  have habsent : phase i sh.log = .absent →
      phase i sh'.log = .absent := by
    intro hphase
    exact (h.phase_eq (by rw [hphase]; rfl)).trans hphase
  match q, hq with
  | none, ⟨hphase, hlog, hanswers⟩ =>
    refine ⟨habsent hphase, h.unended hlog, fun k hk => ?_⟩
    cases heq : phase k sh'.log with
    | answered c j ack =>
      rw [heq] at hk
      cases hk
      apply hanswers k
      rw [h.answers k c ack heq]
      rfl
    | _ =>
      rw [heq] at hk
      cases hk
  | some (.call c pc), ⟨hlog, hpc⟩ => exact ⟨h.unended hlog, h.callPhase hpc⟩
  | some (.onAck (.tryRemove header ack)), ⟨hphase, hlog, hanswers⟩ =>
    exact ⟨habsent hphase, h.unended hlog, fun k c ack' heq =>
      hanswers k c ack' (h.answers k c ack' heq)⟩
  | some (.onAck (.trySetResult k ack)), ⟨hphase, hlog, c, hk⟩ =>
    exact ⟨habsent hphase, h.unended hlog, c,
      hk.imp (h.settled k c).1 ((h.settled k c).2 i ack)⟩
  | some .done, ⟨hclosed, hreturned⟩ =>
    have heq := h.phase_eq hclosed
    refine ⟨heq ▸ hclosed, fun c j ack hphase => ?_⟩
    obtain ⟨hmem, honly⟩ := hreturned c j ack (heq ▸ hphase)
    obtain ⟨newer, hnewer, hlog⟩ := h.log
    rw [hlog]
    refine ⟨List.mem_append_right _ hmem, fun e he hended => ?_⟩
    rcases List.mem_append.mp he with he | he
    · have hthread := hnewer e he
      cases e with
      | returned | threw => exact absurd (Option.some.inj hended) hthread
      | _ => cases hended
    · exact honly e he hended

end Frame

end SyncGDSClient

end Gds
