import GdsSdk.Demo.PendingEntries

/-!
# The phases of a request

What the outside sees of a request: it is called, its message is handed to the client, and from then
on it is open until its timeout elapses or the listener is called with an acknowledgement of the
right type and with its identifier.  The history alone decides the phase of a request, and only the
last of these steps is none of the request itself.

`LosesNoAck` says that a request whose acknowledgement came in time completes with it.
-/

namespace Gds

open Transition

namespace SyncGDSClient

/-- The phase of a request. -/
inductive Phase where
  | absent
  | begun (c : Call)
  /-- The message was handed to the client. -/
  | opened (c : Call)
  /-- The timeout elapsed before an acknowledgement came. -/
  | missed (c : Call)
  /-- Thread `j` is the callback of the acknowledgement that came in time. -/
  | answered (c : Call) (j : ℕ) (ack : Ack)

namespace Phase

/-- What an event makes of the phase of request `i`. -/
def next (i : ℕ) : Phase → Event → Phase
  | .absent, .called i' c => if i' = i then .begun c else .absent
  | .begun c, .handed i' _ => if i' = i then .opened c else .begun c
  | .opened c, .elapsed i' => if i' = i then .missed c else .opened c
  | .opened c, .delivered j header ack =>
    if header.messageId = some c.messageId ∧ c.request.accepts ack = true then .answered c j ack
    else .opened c
  | phase, _ => phase

/-- The call of a request. -/
def call : Phase → Option Call
  | absent => none
  | begun c | opened c | missed c | answered c _ _ => some c

/-- The call of a request whose message was handed to the client. -/
def sent : Phase → Option Call
  | absent | begun _ => none
  | opened c | missed c | answered c _ _ => some c

def isOpened : Phase → Bool
  | opened _ => true
  | _ => false

/-- The callback of the acknowledgement that came in time. -/
def answer : Phase → Option ℕ
  | answered _ j _ => some j
  | _ => none

/-- No event changes the phase any more. -/
def isSettled : Phase → Bool
  | missed _ | answered _ _ _ => true
  | _ => false

end Phase

/-- The phase of request `i` after a history. -/
def phase (i : ℕ) : List Event → Phase
  | [] => .absent
  | e :: older => (phase i older).next i e

/-! ## What a request is owed -/

/-- The identifier that an event calls a request with. -/
def Event.callId : Event → Option String
  | called _ c => some c.messageId
  | _ => none

/-- Requests have no header of their own and identifiers of their own, and no failure of the
connection is reported. -/
def Separate : Guard Wrapper Label := fun s l =>
  match l with
  | .call request newGuid => request.options.header = none ∧
    ∀ e ∈ s.shared.log, e.callId ≠ some (request.resolveMessageId newGuid)
  | .fail _ => False
  | _ => True

instance (s : Wrapper) (l : Label) : Decidable (Separate s l) :=
  match l with
  | .call _ _ => inferInstanceAs (Decidable (_ ∧ _))
  | .fail _ => inferInstanceAs (Decidable False)
  | .acknowledge _ _ | .step _ | .send _ _ _ _ | .elapse _ | .visit _ _ =>
    inferInstanceAs (Decidable True)

/-- Request `i` completes with the acknowledgement that callback `j` was called with: it does not
throw and returns nothing else, the steps of these two threads bring it to its end, and whatever
else happens they do not go on for ever. -/
structure Completes (cfg : Config) (ok : Guard Wrapper Label) (s : Wrapper) (i j : ℕ)
    (ack : Ack) : Prop where
  threw : ∀ e, .threw i e ∉ s.shared.log
  returned : ∀ ack', .returned i ack' ∈ s.shared.log → ack' = ack
  finishes : ∃ s', (system cfg).Reaches (fun s l => ok s l ∧ (l = .step i ∨ l = .step j)) s s' ∧
    .returned i ack ∈ s'.shared.log
  variant : ∃ remaining : Wrapper → ℕ, ∀ t l t', (system cfg).Reaches ok s t → ok t l →
    step cfg t l = some t' → remaining t' ≤ remaining t ∧
      (l.thread = some i ∨ l.thread = some j → remaining t' < remaining t)

/-- Every request whose acknowledgement came in time completes with it. -/
def LosesNoAck (cfg : Config) (ok : Guard Wrapper Label) : Prop :=
  ∀ s i c j ack, (system cfg).Reachable (fun s l => Separate s l ∧ ok s l) s →
    phase i s.shared.log = .answered c j ack →
    Completes cfg (fun s l => Separate s l ∧ ok s l) s i j ack

/-! ## When no acknowledgement is lost -/

/-- The identifier that a thread is about to look up. -/
def Pc.lookup : Pc → Option String
  | .onAck (.tryRemove header _) => header.messageId
  | _ => none

/-- The thread is a request between its send and its registration. -/
def Pc.isUnregistered : Pc → Bool
  | .call _ .tryAdd => true
  | _ => false

/-- The thread is a request that goes over to its timeout if its task is not complete. -/
def Pc.isExpiring : Pc → Bool
  | .call _ .wait | .call _ (.whenAny true) => true
  | _ => false

/-- What a step must not meet.  A callback looks an acknowledgement up only after the request that
it answers has registered itself, and removes the entry of no request that is still open or is
answered by another callback; and no request goes over to its timeout between the call of the
listener with its acknowledgement and the completion of its task. -/
structure Heard (s : Wrapper) (i : ℕ) (pc : Pc) : Prop where
  registered : pc.lookup.isSome = true → ∀ k, s.threads[k]?.any Pc.isUnregistered = true →
    (phase k s.shared.log).answer ≠ some i
  untaken : ∀ key ∈ pc.lookup, ∀ k ∈ s.shared.pendingMessages.lookup key,
    (phase k s.shared.log).isOpened = false ∧
      ∀ j ∈ (phase k s.shared.log).answer, j = i
  inTime : pc.isExpiring = true → s.shared.tasks i = none →
    (phase i s.shared.log).answer = none

/-- Only threads that have started are requests. -/
lemma heard_iff (s : Wrapper) (i : ℕ) (pc : Pc) : Heard s i pc ↔
    (pc.lookup.isSome = true → ∀ k < s.threads.length,
      s.threads[k]?.any Pc.isUnregistered = true → (phase k s.shared.log).answer ≠ some i) ∧
    (∀ key ∈ pc.lookup, ∀ k ∈ s.shared.pendingMessages.lookup key,
      (phase k s.shared.log).isOpened = false ∧ ∀ j ∈ (phase k s.shared.log).answer, j = i) ∧
    (pc.isExpiring = true → s.shared.tasks i = none → (phase i s.shared.log).answer = none) := by
  constructor
  · intro h
    exact ⟨fun hlookup k _ => h.registered hlookup k, h.untaken, h.inTime⟩
  · rintro ⟨hregistered, huntaken, hinTime⟩
    refine ⟨fun hlookup k hk => hregistered hlookup k ?_ hk, huntaken, hinTime⟩
    by_contra hlt
    rw [List.getElem?_eq_none (Nat.not_lt.mp hlt)] at hk
    cases hk

instance (s : Wrapper) (i : ℕ) (pc : Pc) : Decidable (Heard s i pc) :=
  decidable_of_iff _ (heard_iff s i pc).symm

/-- The request that a label calls. -/
def Label.request : Label → Option Request
  | call request _ => some request
  | _ => none

/-- Every step is of this kind, and no request has a longer timeout than a timer takes. -/
def AllHeard : Guard Wrapper Label := fun s l =>
  (∀ request ∈ l.request, request.timeout.totalMilliseconds ≤ maxDelay) ∧
    ∀ i ∈ l.thread, ∀ pc ∈ s.threads[i]?, Heard s i pc

instance (s : Wrapper) (l : Label) : Decidable (AllHeard s l) :=
  inferInstanceAs (Decidable (_ ∧ ∀ i ∈ l.thread, ∀ pc ∈ s.threads[i]?, Heard s i pc))

/-! ## What an event makes of a phase -/

namespace Phase

variable {i j : ℕ} {c : Call} {ack : Ack} {e : Event} {p : Phase}

/-- An event leaves the phase of a request as it is, or is one of the four that it waits for. -/
lemma next_cases (i : ℕ) (p : Phase) (e : Event) : p.next i e = p ∨
    (∃ c, p = .absent ∧ e = .called i c ∧ p.next i e = .begun c) ∨
    (∃ c binary, p = .begun c ∧ e = .handed i binary ∧ p.next i e = .opened c) ∨
    (∃ c, p = .opened c ∧ e = .elapsed i ∧ p.next i e = .missed c) ∨
    ∃ c j header ack, p = .opened c ∧ e = .delivered j header ack ∧
      header.messageId = some c.messageId ∧ c.request.accepts ack = true ∧
      p.next i e = .answered c j ack := by
  cases p with
  | absent =>
    cases e with
    | called i' c =>
      by_cases hi : i' = i
      · subst hi
        exact .inr (.inl ⟨c, rfl, rfl, if_pos rfl⟩)
      · exact .inl (if_neg hi)
    | _ => exact .inl rfl
  | begun c =>
    cases e with
    | handed i' binary =>
      by_cases hi : i' = i
      · subst hi
        exact .inr (.inr (.inl ⟨c, binary, rfl, rfl, if_pos rfl⟩))
      · exact .inl (if_neg hi)
    | _ => exact .inl rfl
  | opened c =>
    cases e with
    | elapsed i' =>
      by_cases hi : i' = i
      · subst hi
        exact .inr (.inr (.inr (.inl ⟨c, rfl, rfl, if_pos rfl⟩)))
      · exact .inl (if_neg hi)
    | delivered j header ack =>
      by_cases hanswers : header.messageId = some c.messageId ∧ c.request.accepts ack = true
      · exact .inr (.inr (.inr (.inr ⟨c, j, header, ack, rfl, rfl, hanswers.1, hanswers.2,
          if_pos hanswers⟩)))
      · exact .inl (if_neg hanswers)
    | _ => exact .inl rfl
  | missed | answered => exact .inl rfl

/-- Events of other threads that are no call of the listener leave the phase as it is. -/
lemma next_eq_self (hthread : e.thread ≠ i) (he : ∀ j header ack, e ≠ .delivered j header ack) :
    p.next i e = p := by
  rcases next_cases i p e with h | ⟨_, -, rfl, -⟩ | ⟨_, _, -, rfl, -⟩ | ⟨_, -, rfl, -⟩ |
    ⟨_, _, _, _, -, rfl, -⟩
  · exact h
  · exact absurd rfl hthread
  · exact absurd rfl hthread
  · exact absurd rfl hthread
  · exact absurd rfl (he _ _ _)

/-- A request was answered before, or it is answered by a call of the listener with an
acknowledgement of its type and with its identifier. -/
lemma next_eq_answered_iff : p.next i e = .answered c j ack ↔ p = .answered c j ack ∨
    ∃ header, p = .opened c ∧ e = .delivered j header ack ∧
      header.messageId = some c.messageId ∧ c.request.accepts ack = true := by
  constructor
  · intro hnext
    rcases next_cases i p e with heq | ⟨_, -, -, heq⟩ | ⟨_, _, -, -, heq⟩ | ⟨_, -, -, heq⟩ |
      ⟨c', j', header, ack', hopened, hevent, hid, haccepts, heq⟩
    · exact .inl (heq.symm.trans hnext)
    · cases heq.symm.trans hnext
    · cases heq.symm.trans hnext
    · cases heq.symm.trans hnext
    · cases heq.symm.trans hnext
      exact .inr ⟨header, hopened, hevent, hid, haccepts⟩
  · rintro (rfl | ⟨header, rfl, rfl, hanswers⟩)
    · rfl
    · exact if_pos hanswers

/-- Only a call of the listener answers a request. -/
lemma next_eq_answered (he : ∀ j header ack, e ≠ .delivered j header ack) :
    p.next i e = .answered c j ack ↔ p = .answered c j ack := by
  rw [next_eq_answered_iff, or_iff_left]
  rintro ⟨header, -, heq, -⟩
  exact he j header ack heq

lemma next_of_isSettled (h : p.isSettled = true) : p.next i e = p := by
  cases p with
  | missed | answered => rfl
  | absent | begun | opened => cases h

/-- A request whose message was handed over stays so. -/
lemma sent_next (h : p.sent = some c) : (p.next i e).sent = some c := by
  rcases next_cases i p e with heq | ⟨_, rfl, -, -⟩ | ⟨_, _, rfl, -, -⟩ | ⟨c', rfl, -, heq⟩ |
    ⟨c', _, _, _, rfl, -, -, -, heq⟩
  · rwa [heq]
  · cases h
  · cases h
  · rwa [heq]
  · rwa [heq]

/-- Only the event of its call changes the call of a request. -/
lemma call_next :
    (p.next i e).call = p.call ∨ ∃ c, e = .called i c ∧ (p.next i e).call = some c := by
  rcases next_cases i p e with heq | ⟨c, -, rfl, heq⟩ | ⟨_, _, rfl, -, heq⟩ | ⟨_, rfl, -, heq⟩ |
    ⟨_, _, _, _, rfl, -, -, -, heq⟩
  · exact .inl (by rw [heq])
  · exact .inr ⟨c, rfl, by rw [heq]; rfl⟩
  · exact .inl (by rw [heq]; rfl)
  · exact .inl (by rw [heq]; rfl)
  · exact .inl (by rw [heq]; rfl)

end Phase

section Log

variable {i j : ℕ} {c : Call} {ack : Ack} {newer log : List Event}

lemma ne_delivered {e : Event} (h : e.isStart = false) (j : ℕ) (header : MessageHeader)
    (ack : Ack) : e ≠ .delivered j header ack := by
  rintro rfl
  cases h

/-- Other threads leave the phase of a request as it is, as long as none starts. -/
lemma phase_append (h : ∀ e ∈ newer, e.thread ≠ i ∧ e.isStart = false) :
    phase i (newer ++ log) = phase i log := by
  induction newer with
  | nil => rfl
  | cons e newer ih =>
    obtain ⟨⟨hthread, he⟩, hnewer⟩ := List.forall_mem_cons.mp h
    rw [List.cons_append, phase, ih hnewer]
    exact Phase.next_eq_self hthread (ne_delivered he)

/-- As long as no thread starts, no request is answered. -/
lemma phase_append_eq_answered (h : ∀ e ∈ newer, e.isStart = false) :
    phase i (newer ++ log) = .answered c j ack ↔ phase i log = .answered c j ack := by
  induction newer with
  | nil => rfl
  | cons e newer ih =>
    obtain ⟨he, hnewer⟩ := List.forall_mem_cons.mp h
    rw [List.cons_append, phase, Phase.next_eq_answered (ne_delivered he)]
    exact ih hnewer

/-- As long as no thread starts, no request is called. -/
lemma call_phase_append (h : ∀ e ∈ newer, e.isStart = false) :
    (phase i (newer ++ log)).call = (phase i log).call := by
  induction newer with
  | nil => rfl
  | cons e newer ih =>
    obtain ⟨he, hnewer⟩ := List.forall_mem_cons.mp h
    rw [← ih hnewer]
    rcases Phase.call_next (i := i) (e := e) (p := phase i (newer ++ log)) with heq | ⟨c, rfl, -⟩
    · exact heq
    · cases he

/-- A request that has missed its acknowledgement, or was answered, stays so. -/
lemma Extends.phase_eq {n : ℕ} {log' : List Event} {p : Phase} (h : Extends n log log')
    (hphase : phase i log = p) (hp : p.isSettled = true) : phase i log' = p := by
  obtain ⟨newer, -, rfl⟩ := h
  induction newer with
  | nil => exact hphase
  | cons e newer ih => rw [List.cons_append, phase, ih, Phase.next_of_isSettled hp]

/-- A message that was handed over is not taken back. -/
lemma Extends.sent_phase {n : ℕ} {log' : List Event} (h : Extends n log log')
    (hsent : (phase i log).sent = some c) : (phase i log').sent = some c := by
  obtain ⟨newer, -, rfl⟩ := h
  induction newer with
  | nil => exact hsent
  | cons e newer ih => exact Phase.sent_next ih

/-- The call of a request is in the history. -/
lemma called_of_phase (h : (phase i log).call = some c) : .called i c ∈ log := by
  induction log with
  | nil => cases h
  | cons e log ih =>
    rcases Phase.call_next (i := i) (e := e) (p := phase i log) with heq | ⟨c', rfl, heq⟩
    · exact List.mem_cons_of_mem _ (ih (heq.symm.trans h))
    · obtain rfl : c' = c := Option.some.inj (heq.symm.trans h)
      exact List.mem_cons_self

/-- The acknowledgement that answers a request is of its type. -/
lemma accepts_of_phase (h : phase i log = .answered c j ack) : c.request.accepts ack = true := by
  induction log with
  | nil => cases h
  | cons e log ih =>
    rcases Phase.next_eq_answered_iff.mp h with hold | ⟨header, -, -, -, haccepts⟩
    · exact ih hold
    · exact haccepts

end Log

end SyncGDSClient

end Gds
