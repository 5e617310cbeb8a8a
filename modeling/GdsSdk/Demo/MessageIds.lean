import GdsSdk.Demo.PendingEntries
import GdsSdk.Messages.Output

/-!
# The identifier of a request

The wrapper and the wrapped client resolve the same pair of optional arguments, an identifier and
a header, each for itself: the wrapper prefers the identifier, and the client sends the header as
it was given.  `waitsForSentId_iff` says when both arrive at the same identifier, so that an
acknowledgement with the identifier that was sent can find the request.
-/

namespace Gds

open Transition MsgPack

namespace SyncGDSClient

/-! ## The header on the wire -/

/-- The header that a peer reads from a binary. -/
def wireHeader (F : WireFormat) (binary : List UInt8) : Except ReadError MessageHeader := do
  let reader : Reader MessageHeader := do
    let _ ← Reader.readArrayHeader
    MessageHeaderFormatter.deserialize
  let (header, _) ← reader.run (F.elements binary)
  return header

/-- The header that was written is the one that is read. -/
lemma wireHeader_of_getBinaryFromMessage {F : WireFormat} {message : Message}
    {binary : List UInt8} (h : MessageManager.getBinaryFromMessage F message = .ok binary) :
    wireHeader F binary = .ok message.header := by
  obtain ⟨ws, hws, henc⟩ := MessageManager.getBinaryFromMessage_eq_ok.mp h
  have helements := F.elements_encodeAll (MessageFormatter.covered_serialize hws) henc
  obtain ⟨data, hdata⟩ : ∃ data,
      ws = .arrayHeader 11 :: (MessageHeaderFormatter.serialize message.header ++ data) := by
    unfold MessageFormatter.serialize at hws
    split at hws
    · cases hws
    · obtain ⟨data, -, hdata⟩ := bind_eq_ok.mp hws
      cases hdata
      exact ⟨data, rfl⟩
  have hreads : Reads (do let _ ← Reader.readArrayHeader; MessageHeaderFormatter.deserialize)
      (written (.arrayHeader 11 :: MessageHeaderFormatter.serialize message.header))
      message.header :=
    (Reads.readArrayHeader 11).bind_cons (MessageHeaderFormatter.reads_serialize message.header)
  have hrun := hreads (written data)
  rw [← written_append, List.cons_append, ← hdata, ← helements] at hrun
  rw [wireHeader, hrun]
  rfl

variable {cfg : Config}

/-- A message that is sent is the encoding of its header and its data part. -/
lemma sendMessage_eq_ok {tested shown : ConnectionState} {header : MessageHeader}
    {data : MessageData} {binary : List UInt8}
    (h : sendMessage cfg tested shown (some header) (some data) = .ok binary) :
    MessageManager.getBinaryFromMessage cfg.wire (MessageManager.getMessage header (some data)) =
      .ok binary := by
  unfold sendMessage at h
  split_ifs at h
  simp only at h
  split_ifs at h
  split at h
  · cases h
  · rename_i hbinary
    cases h
    exact hbinary

/-- The identifier that a call sends: that of its own header, or else the resolved one. -/
def Call.sentId (c : Call) : Option String :=
  c.request.options.header.elim (some c.messageId) MessageHeader.messageId

/-- The header on the wire carries the identifier that the call sends. -/
lemma Call.Sends.wireHeader {c : Call} {binary : List UInt8} (h : c.Sends cfg binary) :
    ∃ header, wireHeader cfg.wire binary = .ok header ∧ header.messageId = c.sentId := by
  obtain ⟨tested, shown, stamp, hsend⟩ := h
  have key : ∀ type data, sendMessage cfg tested shown
      (some (SendRequest.messageHeader cfg.userName stamp ⟨c.messageId, c.request.options.header⟩
        type)) (some data) = .ok binary →
      ∃ header, SyncGDSClient.wireHeader cfg.wire binary = .ok header ∧
        header.messageId = c.sentId := by
    intro type data hbinary
    refine ⟨_, wireHeader_of_getBinaryFromMessage (sendMessage_eq_ok hbinary), ?_⟩
    simp only [MessageManager.getMessage, SendRequest.messageHeader, sentId]
    cases c.request.options.header <;> rfl
  obtain ⟨request, newGuid⟩ := c
  cases request with
  | sendEvent2Async => exact key _ _ hsend
  | sendQueryAsync => exact key _ _ hsend

/-! ## The identifier that is registered -/

/-- The call is registered under the identifier of the header that it has sent. -/
def WaitsForSentId (cfg : Config) (s : Wrapper) (i : ℕ) (key : String) : Prop :=
  ∃ binary header, (∀ binary', .handed i binary' ∈ s.shared.log ↔ binary' = binary) ∧
    wireHeader cfg.wire binary = .ok header ∧ header.messageId = some key

/-- Every call that is registered is so under the identifier that it has sent. -/
def WaitsForSentIds (cfg : Config) : Prop :=
  ∀ s i key, (system cfg).Reachable Unrestricted s → .registered i key ∈ s.shared.log →
    WaitsForSentId cfg s i key

/-- A header that is given has an identifier, and an identifier that is given besides is the
same. -/
def Request.IdsAgree (request : Request) : Prop :=
  ∀ header ∈ request.options.header, header.messageId.isSome = true ∧
    ∀ messageId ∈ request.options.messageID, header.messageId = some messageId

instance (request : Request) : Decidable request.IdsAgree :=
  inferInstanceAs (Decidable (∀ header ∈ request.options.header, _ ∧ _))

/-- A call sends the identifier that it is registered under if and only if its arguments agree. -/
lemma Call.sentId_eq_iff (c : Call) : c.sentId = some c.messageId ↔ c.request.IdsAgree := by
  simp only [sentId, messageId, Request.IdsAgree, Request.resolveMessageId]
  rcases c.request.options.header with _ | header
  · rcases c.request.options.messageID with _ | messageId <;> simp
  · rcases c.request.options.messageID with _ | messageId <;>
      rcases hid : header.messageId with _ | messageId' <;> simp [hid]

variable {ok : Guard Wrapper Label} {s : Wrapper} {i : ℕ} {c : Call} {key : String}

/-- A registered call waits for the identifier that it has sent if that is the resolved one. -/
lemma waitsForSentId_iff_sentId (h : (system cfg).Reachable ok s)
    (hcall : .called i c ∈ s.shared.log) (hkey : .registered i key ∈ s.shared.log) :
    WaitsForSentId cfg s i key ↔ c.sentId = some c.messageId := by
  obtain ⟨c', rfl, newer, binary, hnewer, hbinary, hown⟩ := registered_of_mem h hkey
  have hcall' : .called i c ∈ history i s.shared.log := (mem_history rfl).mpr hcall
  have hlate : ∀ e ∈ newer, ∀ b, e ≠ .handed i b := by
    rintro e he b rfl
    cases hnewer _ he
  obtain rfl : c = c' := by
    rw [hown, List.mem_append] at hcall'
    rcases hcall' with he | he
    · cases hnewer _ he
    · simpa using he
  have hhanded : ∀ binary', .handed i binary' ∈ s.shared.log ↔ binary' = binary := by
    intro binary'
    rw [← mem_history (i := i) rfl, hown, List.mem_append,
      or_iff_right fun he => hlate _ he binary' rfl]
    simp
  obtain ⟨header, hheader, hid⟩ := hbinary.wireHeader
  rw [← hid]
  constructor
  · rintro ⟨binary', header', hhanded', hheader', hid'⟩
    obtain rfl : binary = binary' := (hhanded' binary).mp ((hhanded binary).mpr rfl)
    rw [hheader] at hheader'
    cases hheader'
    exact hid'
  · intro heq
    exact ⟨binary, header, hhanded, hheader, heq⟩

/-- In every run, whatever identifier and whatever header a call was given: if it is registered,
then the key is the identifier of the header on the wire if and only if a header that was given
has an identifier, and an identifier that was given besides is the same. -/
theorem waitsForSentId_iff (h : (system cfg).Reachable Unrestricted s)
    (hcall : .called i c ∈ s.shared.log) (hkey : .registered i key ∈ s.shared.log) :
    WaitsForSentId cfg s i key ↔ c.request.IdsAgree := by
  rw [waitsForSentId_iff_sentId h hcall hkey]
  exact c.sentId_eq_iff

namespace Runs

/-- Whether the arguments of the call agree that an event reports. -/
def argumentsAgree : Event → Option Bool
  | .called _ c => some (decide c.request.IdsAgree)
  | _ => none

/-- The key that an event registers. -/
def registeredKey : Event → Option String
  | .registered _ key => some key
  | _ => none

/-- A run in which the first thread is a call that registers a key. -/
lemma exists_registered (agree : Bool) (ls : List Label)
    (h : (System.exec (system Scenario.cfg) Unrestricted ls (system Scenario.cfg).init).any
      (fun s => decide ((∃ e ∈ s.shared.log, e.thread = 0 ∧ argumentsAgree e = some agree) ∧
        ∃ e ∈ s.shared.log, e.thread = 0 ∧ (registeredKey e).isSome = true)) = true) :
    ∃ s c key, (system Scenario.cfg).Reachable Unrestricted s ∧ .called 0 c ∈ s.shared.log ∧
      .registered 0 key ∈ s.shared.log ∧ decide c.request.IdsAgree = agree := by
  obtain ⟨s, hreach, ⟨e, he, hthread, hagree⟩, e', he', hthread', hkey⟩ :=
    System.exists_reachable ls h
  cases e with
  | called i c =>
    cases e' with
    | registered i' key =>
      cases hthread
      cases hthread'
      exact ⟨s, c, key, hreach, he, he', Option.some.inj hagree⟩
    | _ => cases hkey
  | _ => cases hagree

/-- A header for an insertion. -/
def eventHeader (messageId : Option String) : MessageHeader :=
  ⟨some "user", messageId, 0, 0, false, none, none, none, none, .event⟩

end Runs

open Runs in
/-- An insertion that is given an identifier and a header with another one waits for an
identifier that it has not sent. -/
theorem not_waitsForSentIds : ¬ WaitsForSentIds Scenario.cfg := by
  intro hclaim
  obtain ⟨s, c, key, hreach, hcall, hkey, hagree⟩ := exists_registered false
    [.call (event (some "m") (some (eventHeader (some "h")))) "guid", sends 0, .step 0]
    (by decide +kernel)
  have hsent := (waitsForSentId_iff_sentId hreach hcall hkey).mp (hclaim s 0 key hreach hkey)
  exact of_decide_eq_false hagree (c.sentId_eq_iff.mp hsent)

open Runs in
/-- An insertion with a header of its own waits for the identifier in it. -/
theorem waitsForSentId_iff_header : ∃ s key, (system Scenario.cfg).Reachable Unrestricted s ∧
    .registered 0 key ∈ s.shared.log ∧ WaitsForSentId Scenario.cfg s 0 key := by
  have hrun := exists_registered true
    [.call (event none (some (eventHeader (some "h")))) "guid", sends 0, .step 0]
    (by decide +kernel)
  obtain ⟨s, c, key, hreach, hcall, hkey, hagree⟩ := hrun
  have hagree' : c.request.IdsAgree := of_decide_eq_true hagree
  exact ⟨s, key, hreach, hkey, (waitsForSentId_iff hreach hcall hkey).mpr hagree'⟩

end SyncGDSClient

end Gds
