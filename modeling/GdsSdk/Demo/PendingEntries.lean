import GdsSdk.Demo.Calls
import GdsSdk.Websocket.SingleUse

/-!
# The pending messages

Entries of the dictionary are added and removed by key, without asking whose they are.  Still no
entry outlives its call: a call registers itself once and does not end without having removed its
key, so that whoever is found under the key afterwards is another call.
-/

namespace Gds

open Transition

namespace SyncGDSClient

/-- Thread `i` is a call in progress that has registered the key and not yet removed it. -/
structure Owns (s : Wrapper) (key : String) (i : ℕ) : Prop where
  registered : .registered i key ∈ s.shared.log
  cleanedUp : .cleanedUp i ∉ s.shared.log
  inProgress : ∃ c pc, s.threads[i]? = some (.call c pc) ∧ c.messageId = key

/-- The thread is a call in progress. -/
def Pc.isCall : Pc → Bool
  | .call _ _ => true
  | _ => false

variable {cfg : Config} {n i j : ℕ} {sh sh' : Shared} {l : Label} {pc pc' : Pc} {key : String}

/-- A thread that starts adds no entry. -/
lemma Start.pendingMessages_eq (h : Start n sh l sh' pc') :
    sh'.pendingMessages = sh.pendingMessages := by
  cases h <;> rfl

namespace Move

/-- Only the registration of a call adds an entry. -/
lemma lookup_pendingMessages (h : Move cfg i sh pc sh' pc')
    (hlookup : sh'.pendingMessages.lookup key = some j) :
    sh.pendingMessages.lookup key = some j ∨
      ∃ c, pc = .call c .tryAdd ∧ pc' = .call c .delay ∧ sh' = sh.register i c.messageId ∧
        key = c.messageId ∧ j = i := by
  cases h with
  | registers c =>
    rcases sh.lookup_register.mp hlookup with ⟨rfl, rfl⟩ | ⟨-, hold⟩
    · exact .inr ⟨c, rfl, rfl, rfl, rfl, rfl⟩
    · exact .inl hold
  | cleansUp | timesOut | throws | ackFinds => exact .inl (sh.lookup_remove.mp hlookup).2
  | ackSets | failureSets => exact .inl (by rwa [Shared.trySet_pendingMessages] at hlookup)
  | clears => cases hlookup
  | _ => exact .inl hlookup

/-- A call does not leave its entry behind: after its move it is still in progress and has not
removed its key, or the entry is gone. -/
lemma keepsEntry {c : Call} {q : CallPc} (h : Move cfg i sh (.call c q) sh' pc')
    (hpc : Knows cfg sh i (some (.call c q))) (hregistered : .registered i c.messageId ∈ sh.log)
    (hcleaned : .cleanedUp i ∉ sh.log)
    (hlookup : sh'.pendingMessages.lookup c.messageId = some i) :
    .cleanedUp i ∉ sh'.log ∧ ∃ q', pc' = .call c q' := by
  have hmem : .registered i c.messageId ∈ history i sh.log := (mem_history rfl).mpr hregistered
  cases h with
  | sendFails =>
    rw [show history i sh.log = [.called i c] from hpc] at hmem
    simp at hmem
  | duplicate =>
    obtain ⟨binary, -, hown⟩ := hpc
    rw [hown] at hmem
    simp at hmem
  | cleansUp | timesOut | throws =>
    -- the key was removed
    simp at hlookup
  | returns => exact absurd ((mem_history rfl).mp hpc.2) hcleaned
  | hands | registers | timerElapses | waitElapses => exact ⟨by simpa using hcleaned, _, rfl⟩
  | _ => exact ⟨hcleaned, _, rfl⟩

end Move

variable {s s' : Wrapper} {ok : Guard Wrapper Label}

/-- A call still owns its key when another thread starts or moves. -/
lemma Owns.mono (h : Owns s key i) (hlog : Extends j s.shared.log s'.shared.log) (hne : i ≠ j)
    (hthread : ∀ pc, s.threads[i]? = some pc → s'.threads[i]? = some pc) : Owns s' key i where
  registered := hlog.mem h.registered
  cleanedUp he := by
    rcases hlog.mem_or he with he | he
    · exact h.cleanedUp he
    · exact hne he
  inProgress := by
    obtain ⟨c, pc, hpc, hkey⟩ := h.inProgress
    exact ⟨c, pc, hthread _ hpc, hkey⟩

/-- A move leaves every entry to a call that owns its key. -/
lemma owns_move (hknows : s.Numbered (Knows cfg))
    (h : ∀ key i, s.shared.pendingMessages.lookup key = some i → Owns s key i)
    (hpc : s.threads[j]? = some pc) (hm : Move cfg j s.shared pc sh' pc')
    (hlookup : sh'.pendingMessages.lookup key = some i) :
    Owns ⟨sh', s.threads.set j pc'⟩ key i := by
  have hself : (s.threads.set j pc')[j]? = some pc' := Pool.at_set hpc
  rcases hm.lookup_pendingMessages hlookup with hold | ⟨c, rfl, rfl, rfl, rfl, rfl⟩
  · have howns := h key i hold
    by_cases hij : i = j
    · subst hij
      obtain ⟨c, q, hq, rfl⟩ := howns.inProgress
      rw [hpc] at hq
      cases hq
      obtain ⟨hcleaned, q', rfl⟩ :=
        hm.keepsEntry (hknows.at hpc) howns.registered howns.cleanedUp hlookup
      exact ⟨hm.extends_log.mem howns.registered, hcleaned, c, q', hself, rfl⟩
    · refine howns.mono hm.extends_log hij fun q hq => ?_
      rwa [List.getElem?_set_ne (Ne.symm hij)]
  · -- the call has just registered itself
    obtain ⟨binary, -, hown⟩ := hknows.at hpc
    refine ⟨List.mem_cons_self, fun hcleaned => ?_, c, .delay, hself, rfl⟩
    have hmem : .cleanedUp i ∈ history i s.shared.log :=
      (mem_history rfl).mpr (by simpa using hcleaned)
    rw [hown] at hmem
    simp at hmem

/-- Every entry belongs to a call that owns its key. -/
theorem owns_of_lookup (h : (system cfg).Reachable ok s) :
    ∀ key i, s.shared.pendingMessages.lookup key = some i → Owns s key i := by
  refine h.invariant_of (J := fun s => s.Numbered (Knows cfg))
    (I := fun s => ∀ key i, s.shared.pendingMessages.lookup key = some i → Owns s key i)
    (fun s hs => calls hs) (fun key i hlookup => by cases hlookup) ?_
  intro s l s' hknows hs _ hstep key i hlookup
  rcases step_cases hstep with ⟨sh', pc', -, hstart, rfl⟩ | ⟨j, pc, sh', pc', -, hpc, hm, rfl⟩
  · have hold : s.shared.pendingMessages.lookup key = some i := by
      rw [← hstart.pendingMessages_eq]
      exact hlookup
    have howns := hs key i hold
    obtain ⟨c, pc, hpc, -⟩ := howns.inProgress
    have hlt : i < s.threads.length := (List.getElem?_eq_some_iff.mp hpc).1
    exact howns.mono hstart.extends_log (Nat.ne_of_lt hlt) fun q hq => Pool.at_spawn hq
  · exact owns_move hknows hs hpc hm hlookup

/-- Every key of the pending messages has an owner. -/
lemma exists_owns (h : (system cfg).Reachable ok s) (hkey : key ∈ s.shared.pendingMessages) :
    ∃ i, s.shared.pendingMessages.lookup key = some i ∧ Owns s key i := by
  obtain ⟨i, hi⟩ := Option.isSome_iff_exists.mp (AList.lookup_isSome.mpr hkey)
  exact ⟨i, hi, owns_of_lookup h key i hi⟩

/-- When no request is in progress, nothing is pending. -/
lemma pendingMessages_eq_empty (h : (system cfg).Reachable ok s)
    (hnone : ∀ pc ∈ s.threads, pc.isCall = false) : s.shared.pendingMessages = ∅ := by
  have hkeys : s.shared.pendingMessages.keys = [] := by
    refine List.eq_nil_iff_forall_not_mem.mpr fun key hkey => ?_
    obtain ⟨i, -, howns⟩ := exists_owns h (AList.mem_keys.mpr hkey)
    obtain ⟨c, pc, hpc, -⟩ := howns.inProgress
    have hcall := hnone _ (List.mem_of_getElem? hpc)
    cases hcall
  exact AList.ext (List.map_eq_nil_iff.mp hkeys)

/-- In every run, whatever the identifiers of the calls and the order of steps, acknowledgements,
timeouts and failures: every key of the pending messages belongs to a call in progress that has
registered it and has not yet removed it, and when no call is in progress nothing is pending. -/
theorem pendingMessages_owned (h : (system cfg).Reachable Unrestricted s) :
    (∀ key ∈ s.shared.pendingMessages, ∃ i c pc,
      s.shared.pendingMessages.lookup key = some i ∧ .registered i key ∈ s.shared.log ∧
        .cleanedUp i ∉ s.shared.log ∧ s.threads[i]? = some (.call c pc) ∧ c.messageId = key) ∧
    ((∀ pc ∈ s.threads, pc.isCall = false) → s.shared.pendingMessages = ∅) := by
  refine ⟨fun key hkey => ?_, pendingMessages_eq_empty h⟩
  obtain ⟨i, hi, howns⟩ := exists_owns h hkey
  obtain ⟨c, pc, hpc, hc⟩ := howns.inProgress
  exact ⟨i, c, pc, hi, howns.registered, howns.cleanedUp, hpc, hc⟩

/-! ## Runs -/

namespace Runs

/-- An insertion that may take a second. -/
def event (messageID : Option String) (header : Option MessageHeader) : Request :=
  .sendEvent2Async (some "INSERT") ⟨10000000⟩ none none ⟨messageID, header⟩

/-- The request of thread `i` is sent by a client that is logged in. -/
def sends (i : ℕ) : Label := .send i .loggedIn .loggedIn Scenario.stamp

/-- The header of an acknowledgement. -/
def ackHeader (messageId : String) : MessageHeader :=
  ⟨some "user", some messageId, 0, 0, false, none, none, none, none, .eventAck⟩

/-- An acknowledgement of an insertion. -/
def eventAck : Ack := .event ⟨.ok, none, none⟩

/-- An insertion is sent and registered. -/
def registering : List Label :=
  [.call (event (some "m") none) "guid", sends 0, .step 0]

/-- The insertion is acknowledged and returns. -/
def returning : List Label :=
  [.acknowledge (ackHeader "m") eventAck, .step 1, .step 1] ++ List.replicate 4 (.step 0)

end Runs

open Runs in
/-- An insertion that is registered owns its key, and after it has returned nothing is pending. -/
theorem pendingMessages_owned_event :
    (∃ s i, (system Scenario.cfg).Reachable Unrestricted s ∧ "m" ∈ s.shared.pendingMessages ∧
      .registered i "m" ∈ s.shared.log ∧ .cleanedUp i ∉ s.shared.log) ∧
    ∃ s, (system Scenario.cfg).Reachable Unrestricted s ∧ s.threads ≠ [] ∧
      s.shared.pendingMessages = ∅ := by
  constructor
  · have hrun : ∃ s, (system Scenario.cfg).Reachable Unrestricted s ∧
        "m" ∈ s.shared.pendingMessages :=
      System.exists_reachable registering (by decide +kernel)
    obtain ⟨s, hreach, hm⟩ := hrun
    obtain ⟨i, -, -, -, hregistered, hcleaned, -⟩ := (pendingMessages_owned hreach).1 "m" hm
    exact ⟨s, i, hreach, hm, hregistered, hcleaned⟩
  · have hrun : ∃ s, (system Scenario.cfg).Reachable Unrestricted s ∧
        s.threads.length = 2 ∧ ∀ pc ∈ s.threads, pc.isCall = false :=
      System.exists_reachable (registering ++ returning) (by decide +kernel)
    obtain ⟨s, hreach, hlength, hdone⟩ := hrun
    refine ⟨s, hreach, ?_, (pendingMessages_owned hreach).2 hdone⟩
    rintro hnil
    rw [hnil] at hlength
    cases hlength

end SyncGDSClient

end Gds
