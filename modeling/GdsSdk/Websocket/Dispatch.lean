import GdsSdk.Messages.AnnouncedData
import GdsSdk.Transition.Balance
import GdsSdk.Transition.Simulation
import GdsSdk.Websocket.SingleUse

/-!
# Every received message is dispatched once

Between the socket and the listener stands `OnMessageReceived`: what it is given is decoded and
passed on, or dropped if it cannot be decoded or is not for a client.  Its callbacks interleave
with everything else, so that messages may overtake each other.  `dispatchedOnce` says that none of
them is lost, invented or passed on twice.
-/

namespace Gds

open Transition AsyncGDSClient

namespace OnMessageReceived

/-- What a received binary is for: an acknowledgement of the login, which the client handles, or a
message for the listener. -/
def dispatch (cfg : Config) (binary : List UInt8) : Option (MessageHeader × MessageData) :=
  match MessageManager.getMessageFromBinary cfg.wire binary with
  | .error _ | .ok ⟨_, none⟩ => none
  | .ok ⟨header, some (.connectionAck ackData)⟩ => some (header, .connectionAck ackData)
  | .ok ⟨header, some data⟩ => if isDelivered data then some (header, data) else none

/-- The data part of a dispatched message is of the type that its header announces. -/
lemma getDataType_of_dispatch {cfg : Config} {binary : List UInt8} {header : MessageHeader}
    {data : MessageData} (h : dispatch cfg binary = some (header, data)) :
    MessageManager.getMessageFromBinary cfg.wire binary = .ok ⟨header, some data⟩ ∧
      data.getDataType = header.dataType := by
  have hdecode : MessageManager.getMessageFromBinary cfg.wire binary =
      .ok ⟨header, some data⟩ := by
    unfold dispatch at h
    split at h
    · cases h
    · cases h
    · rename_i hdecode
      cases h
      exact hdecode
    · rename_i hdecode
      split_ifs at h
      cases h
      exact hdecode
  refine ⟨hdecode, ?_⟩
  obtain ⟨rest, hrun⟩ := (MessageManager.getMessageFromBinary_eq_ok cfg.wire binary).mp hdecode
  obtain ⟨n, es, -, hdata⟩ := MessageFormatter.run_deserialize_eq_ok.mp hrun
  exact MessageFormatter.getDataType_of_run hdata

end OnMessageReceived

/-- The message that an event dispatches. -/
def Event.dispatched : Event → Option (MessageHeader × MessageData)
  | acknowledged header ackData => some (header, .connectionAck ackData)
  | delivered header data => some (header, data)
  | _ => none

/-- The messages that were dispatched, newest first. -/
def dispatched (sh : Shared) : List (MessageHeader × MessageData) :=
  sh.log.filterMap Event.dispatched

/-- The message that a callback has still to dispatch. -/
def Pc.dispatches (cfg : Config) : Pc → Option (MessageHeader × MessageData)
  | .received (.decode binary) => OnMessageReceived.dispatch cfg binary
  | .received (.deliver header data) => some (header, data)
  | _ => none

/-- A callback of a received message. -/
def Pc.isReceived : Pc → Bool
  | .received _ => true
  | _ => false

/-- What the socket receives. -/
def received (_ : Client) : Label → Option (List UInt8)
  | .raise (.dataReceived binary) => some binary
  | _ => none

section Moves

variable {cfg : Config} {i : ℕ} {sh sh' : Shared} {pc pc' : Pc}

/-- An event that dispatches a message is one more of them. -/
lemma coe_dispatched_record (sh : Shared) {e : Event} {m : MessageHeader × MessageData}
    (he : e.dispatched = some m) :
    (dispatched (sh.record e) : Multiset (MessageHeader × MessageData)) +
        ((none : Option (MessageHeader × MessageData)).toList) =
      dispatched sh + (some m).toList := by
  have hcons : dispatched (sh.record e) = m :: dispatched sh := List.filterMap_cons_some he
  rw [hcons, Option.toList_none, Multiset.coe_nil, add_zero, ← Multiset.cons_coe,
    ← Multiset.singleton_add, add_comm]
  rfl

/-- The decoder passes on what the binary is for. -/
lemma dispatches_decode {binary : List UInt8}
    (h : onMessageReceived cfg i sh (.decode binary) = some (sh', pc')) :
    (dispatched sh' : Multiset (MessageHeader × MessageData)) + ((pc'.dispatches cfg).toList) =
      dispatched sh + (OnMessageReceived.dispatch cfg binary).toList := by
  unfold OnMessageReceived.dispatch
  cases hdecode : MessageManager.getMessageFromBinary cfg.wire binary with
  | error e =>
    simp only [onMessageReceived, hdecode] at h
    cases h
    rfl
  | ok m =>
    obtain ⟨header, _ | data⟩ := m
    · simp only [onMessageReceived, hdecode] at h
      cases h
      rfl
    · simp only [onMessageReceived, hdecode] at h
      cases data with
      | connectionAck ackData =>
        -- the acknowledgement is handled from here on
        cases h
        exact coe_dispatched_record sh rfl
      | _ =>
        cases h
        rfl

/-- A move passes on what its thread has to dispatch, or keeps it. -/
lemma Move.dispatches (hm : Move cfg i sh pc sh' pc')
    (hpc : ∀ binary, pc ≠ .received (.decode binary)) :
    (dispatched sh' : Multiset (MessageHeader × MessageData)) + ((pc'.dispatches cfg).toList) =
      dispatched sh + (pc.dispatches cfg).toList := by
  cases hm with
  | receivedIgnored binary | receivedThrows binary | receivedAck binary | receivedOther binary =>
    exact absurd rfl (hpc binary)
  | closeReturns caller => cases caller <;> rfl
  | delivers header data => exact coe_dispatched_record sh rfl
  | _ => rfl

/-- A step passes on what its thread has to dispatch, or keeps it. -/
lemma next_dispatches (h : next cfg i sh pc = some (sh', pc')) :
    (dispatched sh' : Multiset (MessageHeader × MessageData)) + ((pc'.dispatches cfg).toList) =
      dispatched sh + (pc.dispatches cfg).toList := by
  by_cases hpc : ∃ binary, pc = .received (.decode binary)
  · obtain ⟨binary, rfl⟩ := hpc
    exact dispatches_decode h
  · exact (Move.of_next h).dispatches fun binary heq => hpc ⟨binary, heq⟩

end Moves

namespace AsyncGDSClient

variable {cfg : Config} {ok : Guard Client Label} {s s' : Client} {l : Label}
  {seen : List (List UInt8)}

/-- What is received is dispatched, or a callback has still to do it. -/
def InBalance (cfg : Config) (s : Client) (seen : List (List UInt8)) : Prop :=
  s.Balanced dispatched (Pc.dispatches cfg) (seen.filterMap (OnMessageReceived.dispatch cfg))

/-- A step of a client keeps the balance of its messages. -/
lemma inBalance_step (h : InBalance cfg s seen) (hstep : step cfg s l = some s') :
    InBalance cfg s' ((received s l).toList ++ seen) := by
  -- the moves of a thread receive nothing
  have hmoves : ∀ (i : ℕ) (f : Shared → Pc → Option (Shared × Pc)), s.move i f = some s' →
      (∀ pc sh' pc', f s.shared pc = some (sh', pc') →
        (dispatched sh' : Multiset (MessageHeader × MessageData)) + ((pc'.dispatches cfg).toList) =
          dispatched s.shared + (pc.dispatches cfg).toList) → InBalance cfg s' seen := by
    intro i f hmove hf
    obtain ⟨pc, sh', pc', hpc, hnext, rfl⟩ := Pool.move_eq_some.mp hmove
    exact Pool.Balanced.set h hpc (hf pc sh' pc' hnext)
  cases l with
  | call c =>
    cases hstep
    have hcarries : ((c.start cfg).dispatches cfg).toList = [] := by cases c <;> rfl
    exact Pool.Balanced.spawn h rfl hcarries
  | raise e =>
    simp only [step] at hstep
    split_ifs at hstep
    cases hstep
    have hnew : (e.start.dispatches cfg).toList =
        ((received s (.raise e)).toList).filterMap (OnMessageReceived.dispatch cfg) := by
      cases e with
      | dataReceived binary =>
        cases hdispatch : OnMessageReceived.dispatch cfg binary <;>
          simp [SocketEvent.start, Pc.dispatches, received, hdispatch]
      | _ => rfl
    unfold InBalance
    rw [List.filterMap_append]
    exact Pool.Balanced.spawn h rfl hnew
  | step i => exact hmoves i (next cfg i) hstep fun pc sh' pc' hnext => next_dispatches hnext
  | expire i =>
    refine hmoves i expire hstep fun pc sh' pc' hnext => ?_
    have hm : Move cfg i s.shared pc sh' pc' := .of_expire hnext
    refine hm.dispatches ?_
    rintro binary rfl
    cases hnext
  | abort i =>
    refine hmoves i abort hstep fun pc sh' pc' hnext => ?_
    have hm : Move cfg i s.shared pc sh' pc' := .of_abort hnext
    refine hm.dispatches ?_
    rintro binary rfl
    cases hnext

/-- The messages of a client are in balance in every run. -/
theorem inBalance {p : Client × List (List UInt8)}
    (h : ((system cfg).observe received).Reachable (System.observed ok) p) :
    InBalance cfg p.1 p.2 := by
  have hinit : InBalance cfg (system cfg).init [] := by
    simp [InBalance, Pool.Balanced, system, Shared.init, dispatched]
  refine System.observe_invariant (R := InBalance cfg) hinit ?_ h
  intro s seen l s' _ hs _ hstep
  exact inBalance_step hs hstep

/-- In every run, whatever is received and in whatever order the callbacks take their steps: the
messages that were dispatched, with their repetitions, are among those that were received for the
client; when no `OnMessageReceived` is in progress they are all of them; and each one was decoded
from what was received, with a data part of the type that its header announces. -/
theorem dispatchedOnce {p : Client × List (List UInt8)}
    (h : ((system cfg).observe received).Reachable (System.observed Unrestricted) p) :
    (dispatched p.1.shared).Subperm (p.2.filterMap (OnMessageReceived.dispatch cfg)) ∧
    ((∀ pc ∈ p.1.threads, pc.isReceived = false) →
      (dispatched p.1.shared).Perm (p.2.filterMap (OnMessageReceived.dispatch cfg))) ∧
    ∀ header data, (header, data) ∈ dispatched p.1.shared → ∃ binary ∈ p.2,
      MessageManager.getMessageFromBinary cfg.wire binary = .ok ⟨header, some data⟩ ∧
        data.getDataType = header.dataType := by
  have hbalance := inBalance h
  refine ⟨hbalance.subperm, fun hidle => hbalance.perm fun pc hpc => ?_, ?_⟩
  · have hreceived := hidle pc hpc
    cases pc with
    | received => cases hreceived
    | _ => rfl
  · intro header data hmem
    obtain ⟨binary, hbinary, hdispatch⟩ := List.mem_filterMap.mp (hbalance.subperm.subset hmem)
    exact ⟨binary, hbinary, OnMessageReceived.getDataType_of_dispatch hdispatch⟩

end AsyncGDSClient

open Scenario in
/-- After an undisturbed login the one acknowledgement that was received is dispatched. -/
theorem AsyncGDSClient.dispatchedOnce_login : ∃ p : Client × List (List UInt8),
    ((system cfg).observe received).Reachable (System.observed Unrestricted) p ∧
    p.2 = [positiveAck] ∧
    (dispatched p.1.shared).Perm (p.2.filterMap (OnMessageReceived.dispatch cfg)) := by
  have hlogin : ∃ p : Client × List (List UInt8),
      ((system cfg).observe received).Reachable (System.observed Unrestricted) p ∧
      p.2 = [positiveAck] ∧ ∀ pc ∈ p.1.threads, pc.isReceived = false :=
    System.exists_reachable login (by decide +kernel)
  obtain ⟨p, hreach, hseen, hidle⟩ := hlogin
  exact ⟨p, hreach, hseen, (dispatchedOnce hreach).2.1 hidle⟩

end Gds
