import GdsSdk.Demo.Callbacks

/-!
# Every event document is answered once

With what is known of the callbacks of a program, and of the client, that it passes on every message
once and that its calls are atomic, `documents_answered` goes from the event documents that the
socket receives to the answers that it is handed.
-/

namespace Gds

open MsgPack Transition ListenerImpl

/-- The header of the document that a callback is for. -/
def ListenerImpl.Pc.document (pc : ListenerImpl.Pc) : Option MessageHeader := pc.callback.document

namespace Program

variable {cfg : Config} {listener : ListenerImpl}

/-! ## From the documents to the answers -/

/-- The header of the event document that the bytes are the encoding of. -/
def documentOf (cfg : Config) (binary : List UInt8) : Option MessageHeader :=
  match MessageManager.getMessageFromBinary cfg.wire binary with
  | .ok ⟨header, some (.eventDocument _)⟩ => some header
  | _ => none

/-- The header of the event document in a message. -/
def messageDocument : MessageHeader × MessageData → Option MessageHeader
  | (header, .eventDocument _) => some header
  | _ => none

/-- The client passes on what is decoded as an event document. -/
lemma messageDocument_dispatch (binary : List UInt8) :
    (OnMessageReceived.dispatch cfg binary).bind messageDocument = documentOf cfg binary := by
  unfold OnMessageReceived.dispatch documentOf
  cases MessageManager.getMessageFromBinary cfg.wire binary with
  | error e => rfl
  | ok m =>
    obtain ⟨header, _ | data⟩ := m
    · rfl
    · cases data <;> rfl

/-- The documents that were passed to the listener are those that were dispatched. -/
lemma documents_eq (sh : Shared) :
    (callbacks sh).filterMap Callback.document = (dispatched sh).filterMap messageDocument := by
  rw [callbacks, dispatched, List.filterMap_filterMap, List.filterMap_filterMap]
  refine List.filterMap_congr fun e _ => ?_
  cases e with
  | delivered header data => cases data <;> rfl
  | _ => rfl

/-- The callbacks for documents are those for the documents that were passed to the listener. -/
lemma document_perm {ok : Guard Program Label} {p : Program}
    (h : (system cfg listener).Reachable ok p) :
    (p.listener.threads.filterMap Pc.document).Perm
      ((dispatched p.client.shared).filterMap messageDocument) := by
  have hdocument : p.listener.threads.filterMap Pc.document =
      (p.listener.threads.map Pc.callback).filterMap Callback.document := by
    rw [List.filterMap_map]
    rfl
  rw [hdocument, callbacks_eq h, ← documents_eq]
  exact (List.reverse_perm _).filterMap _

/-- A callback for a document has made one call at most, which answers it, and has made it when it
has returned. -/
lemma calls_of_made {log : List Event} {pc : ListenerImpl.Pc} {header : MessageHeader}
    (h : Made listener log pc) (hdocument : pc.document = some header) :
    (∀ c ∈ pc.calls, c.request = answer header) ∧
      (pc.isDone = true → ∃ c, pc.calls = [c] ∧ pc.ended = [c]) := by
  cases h with
  | testClient callback | answer header' =>
    exact ⟨fun c hc => absurd hc List.not_mem_nil, fun hdone => by cases hdone⟩
  | answering header' c h =>
    cases hdocument
    refine ⟨fun c' hc => ?_, fun hdone => by cases hdone⟩
    rw [List.mem_singleton.mp hc, h]
  | answered header' c h =>
    cases hdocument
    refine ⟨fun c' hc => ?_, fun _ => ⟨c, rfl, rfl⟩⟩
    rw [List.mem_singleton.mp hc, h]
  | _ => cases hdocument

/-- The data part of an answer. -/
def ackOk : EventDocumentAck := ⟨.ok, some [some ⟨.ok, none⟩], none⟩

/-- The message that answers a document: under its identifier, or under a new one if it has
none. -/
def answerMessage (cfg : Config) (header : MessageHeader) (stamp : Stamp) : Message where
  header := MessageManager.getHeader (some cfg.userName) header.messageId stamp.newGuid
    stamp.createTime stamp.requestTime .eventDocumentAck
  data := some (.eventDocumentAck ackOk)

/-- What a call that answers a document passes to `SendMessage`. -/
lemma arguments_of_answer {c : SendCall} {header : MessageHeader}
    (h : c.request = answer header) :
    c.arguments cfg =
      (some (answerMessage cfg header c.stamp).header, some (.eventDocumentAck ackOk)) := by
  rw [SendCall.arguments, h]
  rfl

/-- An answer is written, so that only a length can be in its way. -/
lemma getBinaryFromMessage_answer (header : MessageHeader) (stamp : Stamp)
    {e : MessagePackSerializationException}
    (h : MessageManager.getBinaryFromMessage cfg.wire (answerMessage cfg header stamp) =
      .error e) : e = .length := by
  unfold MessageManager.getBinaryFromMessage at h
  split at h
  · rename_i hws
    cases hws
  · split at h <;> cases h
    rfl

/-- A call that answers a document and has thrown met a state that does not allow it, or a length
that does not fit the format. -/
lemma sendMessage_answer_error {header : MessageHeader} {stamp : Stamp}
    {tested shown : ConnectionState} {e : ClientException}
    (h : SyncGDSClient.sendMessage cfg tested shown (some (answerMessage cfg header stamp).header)
      (some (.eventDocumentAck ackOk)) = .error e) :
    e = .serialization .length ∨ tested ≠ .loggedIn := by
  by_cases htested : tested = .loggedIn
  · left
    have htype : (answerMessage cfg header stamp).header.dataType =
        (MessageData.eventDocumentAck ackOk).getDataType := rfl
    simp only [SyncGDSClient.sendMessage, htested, ne_eq, not_true_eq_false, if_false, htype] at h
    split at h
    · rename_i hbinary
      cases h
      rw [getBinaryFromMessage_answer header stamp hbinary]
    · cases h
  · exact .inr htested

/-- What a call that answers a document has handed to the socket decodes to the answer. -/
lemma getMessageFromBinary_of_sent {c : SendCall} {header : MessageHeader} {log : List Event}
    {binary : List UInt8} (hrequest : c.request = answer header) (h : c.Outcome cfg log)
    (hsent : .sent c.thread binary ∈ log) :
    MessageManager.getMessageFromBinary cfg.wire binary =
      .ok (answerMessage cfg header c.stamp) := by
  obtain ⟨header', data, harguments, htype, hbinary⟩ := h.encoded hsent
  rw [arguments_of_answer hrequest] at harguments
  cases harguments
  exact (OnMessageReceived.getDataType_of_dispatch
    (OnMessageReceived.dispatch_of_encoded htype hbinary)).1

/-- A call that answers a document has thrown for a length, or because of a value that `State` had
during the call. -/
lemma error_of_threw {c : SendCall} {header : MessageHeader} {log : List Event}
    {e : ClientException} (hrequest : c.request = answer header) (h : c.Outcome cfg log)
    (hthrew : .threw c.thread e ∈ log) : e = .serialization .length ∨
      ∃ newer older value, log = newer ++ .threw c.thread e :: older ∧ value ≠ .loggedIn ∧
        c.Met value older := by
  obtain ⟨newer, older, tested, shown, hlog, hmet, herror⟩ := h.thrown hthrew
  rw [arguments_of_answer hrequest] at herror
  refine (sendMessage_answer_error herror).imp_right fun htested => ?_
  exact ⟨newer, older, tested, hlog, htested, hmet⟩

/-- The documents that are dispatched are those that are decoded. -/
lemma filterMap_messageDocument (messages : List (List UInt8)) :
    (messages.filterMap (OnMessageReceived.dispatch cfg)).filterMap messageDocument =
      messages.filterMap (documentOf cfg) := by
  rw [List.filterMap_filterMap]
  exact List.filterMap_congr fun binary _ => messageDocument_dispatch binary

/-- What a program has received and what it has answered.  Every callback for a document is for one
that was received, no two for the same, and when no message is in progress every document has one;
a callback that has returned has made a call of its own that has had one outcome; whatever that call
has handed to the socket decodes to the acknowledgement with the identifier of the document, or with
a new one if the document has none; and if it has thrown then `State` was not `LOGGED_IN` at some
time during the call, or the identifier or the user name was too long for the format. -/
structure DocumentsAnswered (cfg : Config) (p : Program) (received : List (List UInt8)) : Prop where
  subperm : (p.listener.threads.filterMap Pc.document).Subperm
    (received.filterMap (documentOf cfg))
  perm : (∀ pc ∈ p.client.threads, pc.isReceived = false) →
    (p.listener.threads.filterMap Pc.document).Perm (received.filterMap (documentOf cfg))
  distinct : Distinct p.listener.threads
  answered : ∀ pc ∈ p.listener.threads, ∀ header, pc.document = some header → pc.isDone = true →
    ∃ c, pc.calls = [c] ∧ c.request = answer header ∧ c.Outcome cfg p.client.shared.log
  sent : ∀ pc ∈ p.listener.threads, ∀ header, pc.document = some header → ∀ c ∈ pc.calls,
    ∀ binary, .sent c.thread binary ∈ p.client.shared.log →
      MessageManager.getMessageFromBinary cfg.wire binary = .ok (answerMessage cfg header c.stamp)
  threw : ∀ pc ∈ p.listener.threads, ∀ header, pc.document = some header → ∀ c ∈ pc.calls,
    ∀ e, .threw c.thread e ∈ p.client.shared.log → e = .serialization .length ∨
      ∃ newer older value, p.client.shared.log = newer ++ .threw c.thread e :: older ∧
        value ≠ .loggedIn ∧ c.Met value older

/-- In every run in which the client is attached to its listener first, whatever the socket
receives and in whatever order the client, the user and the callbacks take their steps: the event
documents that are received are answered once each, those without an identifier under a new one. -/
theorem documents_answered {q : Program × List (List UInt8)}
    (h : ((system cfg listener).observe (watched received)).Reachable
      (System.observed AttachedFirst) q) : DocumentsAnswered cfg q.1 q.2 := by
  have hreach := System.reachable_of_observe h
  have hcallbacks := document_perm hreach
  have hbalance := AsyncGDSClient.inBalance (client_reachable h)
  -- the calls of the callbacks are calls of the client
  obtain ⟨calls, hcalls⟩ := System.exists_observed (watched sendCall) hreach
  have hlinked := linked hcalls
  have hsends := AsyncGDSClient.sendCalls (client_reachable hcalls)
  have hcalled : ∀ pc ∈ q.1.listener.threads, ∀ header, pc.document = some header →
      ∀ c ∈ pc.calls, c ∈ calls ∧ c.request = answer header := by
    intro pc hpc header hdocument c hc
    have hknows := hlinked.knows pc hpc
    exact ⟨hknows.calls c hc, (calls_of_made hknows.made hdocument).1 c hc⟩
  refine ⟨?_, fun hidle => ?_, hlinked.distinct, ?_, ?_, ?_⟩
  · obtain ⟨found, hperm, hsublist⟩ := hbalance.subperm
    have hfound := hsublist.filterMap messageDocument
    rw [filterMap_messageDocument] at hfound
    exact hcallbacks.subperm.trans ⟨_, hperm.filterMap messageDocument, hfound⟩
  · have hperm := (hbalance.perm fun pc hpc => ?_).filterMap messageDocument
    · rw [filterMap_messageDocument] at hperm
      exact hcallbacks.trans hperm
    · have hreceived := hidle pc hpc
      cases pc with
      | received => cases hreceived
      | _ => rfl
  · intro pc hpc header hdocument hdone
    have hknows := hlinked.knows pc hpc
    obtain ⟨c, hc, hended⟩ := (calls_of_made hknows.made hdocument).2 hdone
    obtain ⟨hmem, hrequest⟩ := hcalled pc hpc header hdocument c (by simp [hc])
    have hcall := hsends.knows c hmem
    rw [hknows.ended c (by simp [hended])] at hcall
    exact ⟨c, hc, hrequest, hcall⟩
  · intro pc hpc header hdocument c hc binary hsent
    obtain ⟨hmem, hrequest⟩ := hcalled pc hpc header hdocument c hc
    exact getMessageFromBinary_of_sent hrequest
      (AsyncGDSClient.SendCalls.outcome_of_ended hsends hmem hsent rfl) hsent
  · intro pc hpc header hdocument c hc e hthrew
    obtain ⟨hmem, hrequest⟩ := hcalled pc hpc header hdocument c hc
    exact error_of_threw hrequest
      (AsyncGDSClient.SendCalls.outcome_of_ended hsends hmem hthrew rfl) hthrew

namespace Runs

open Scenario

/-- The binary of an event document with the identifier "d". -/
def documentBinary : List UInt8 :=
  [0x9b, 0xc0, 0xa1, 0x64, 0, 0, 0xc2, 0xc0, 0xc0, 0xc0, 0xc0, 8, 0x94, 0xc0, 0xc0, 0xc0, 0xc0]

/-- A listener of the demo program. -/
def demoListener : ListenerImpl := ⟨some "camera", ⟨"DEMO", by decide +kernel⟩⟩

/-- A document is received, and its callback, the second one, answers it. -/
def answering : List Label :=
  .client (.raise (.dataReceived documentBinary)) :: (steps 2 3).map .client ++
    [.testClient 1, .send 1 "id" stamp] ++ (steps 2 4).map .client ++ [.finish 1]

end Runs

/-- A document that is received after a login has one callback, which has returned, and an answer
has been handed to the socket. -/
theorem documents_answered_login : ∃ q : Program × List (List UInt8),
    q.2 = [Runs.documentBinary, Scenario.positiveAck] ∧
    (q.1.listener.threads.filterMap fun pc => pc.document.map fun header =>
      (header.messageId, pc.isDone)) = [(some "d", true)] ∧
    (q.1.client.shared.log.any fun e => match e with
      | .sent _ _ => true
      | _ => false) = true ∧ DocumentsAnswered Scenario.cfg q.1 q.2 := by
  have hrun : ∃ q : Program × List (List UInt8),
      ((system Scenario.cfg Runs.demoListener).observe (watched received)).Reachable
        (System.observed AttachedFirst) q ∧
      q.2 = [Runs.documentBinary, Scenario.positiveAck] ∧
      (q.1.listener.threads.filterMap fun pc => pc.document.map fun header =>
      (header.messageId, pc.isDone)) = [(some "d", true)] ∧
      (q.1.client.shared.log.any fun e => match e with
        | .sent _ _ => true
        | _ => false) = true :=
    System.exists_reachable (.attachClient :: Scenario.login.map .client ++ Runs.answering)
      (by decide +kernel)
  obtain ⟨q, hreach, hseen, hdone, hsent⟩ := hrun
  exact ⟨q, hseen, hdone, hsent, documents_answered hreach⟩

end Program

end Gds
