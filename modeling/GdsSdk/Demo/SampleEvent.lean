import GdsSdk.Demo.Documents

/-!
# The sample event is inserted once

A program as `Main` runs it leaves it to the listener to send.  `sampleEvent_inserted` says what it
has sent of its own accord at any time: at most one insertion, after it at most one query, and the
insertion is read by a service, first as a message and then as a statement, as it is meant, for the
sources for which it can be.
-/

namespace Gds

open MsgPack Transition ListenerImpl Statement

/-! ## What a service reads -/

/-- A message with an event, as it is read by a service: like the messages of other types. -/
def EventData.readMessage : Reader (MessageHeader × Option EventData) := do
  let _ ← Reader.readArrayHeader
  let header ← MessageHeaderFormatter.deserialize
  let data ← formatter.deserialize
  return (header, data)

/-- What was encoded with an event is read as it was. -/
lemma EventData.run_readMessage {F : WireFormat} {header : MessageHeader} {data : EventData}
    {binary : List UInt8} (hb : MessageManager.getBinaryFromMessage F
      (MessageManager.getMessage header (some (.event data))) = .ok binary) :
    readMessage.run (F.elements binary) = .ok ((header, some data), []) := by
  obtain ⟨ws, hws, henc⟩ := MessageManager.getBinaryFromMessage_eq_ok.mp hb
  rw [F.elements_encodeAll (MessageFormatter.covered_serialize hws) henc]
  simp only [MessageFormatter.serialize, MessageManager.getMessage, bind_eq_ok] at hws
  obtain ⟨ws, hdata, ⟨⟩⟩ := hws
  have hreads : Reads readMessage
      (written (.arrayHeader 11 :: (MessageHeaderFormatter.serialize header ++ ws)))
      (header, some data) := by
    rw [written_cons, written_append]
    refine (Reads.readArrayHeader 11).bind_cons ?_
    refine (MessageHeaderFormatter.reads_serialize header).bind ?_
    exact (formatter_exact (some data) ws hdata).map (Prod.mk header)
  have hrun := hreads []
  rwa [List.append_nil] at hrun

/-- What a service reads of an insertion: the message, in it the contents of the attachments under
their keys, and a statement.  In either dialect the statement is read as it is meant if and only if
the name of the source and the first characters of the identifiers are plain. -/
def ReadAsMeant (cfg : Config) (listener : ListenerImpl) (c : SendCall) (binary : List UInt8) :
    Prop :=
  ∃ source image eventTime frontTime rearTime newGuid insertSql binaryContents,
    listener.sourceId = some source ∧
    EventData.readMessage.run (cfg.wire.elements binary) =
      .ok ((MessageManager.getHeader (some cfg.userName) (some newGuid) c.stamp.newGuid
        c.stamp.createTime c.stamp.requestTime .event,
        some ⟨some insertSql, some binaryContents, some []⟩), []) ∧
    binaryContents.entries =
      [(HexUtil.hexString (listener.idGenerator.generate frontTime ++ "_FRONT"), some image),
        (HexUtil.hexString (listener.idGenerator.generate rearTime ++ "_REAR"), some image)] ∧
    ∀ backslash, lex (SqlBuilder.sql backslash) .code insertSql.toList =
        some (meant (SqlBuilder.insertPieces
          (listener.idGenerator.generate eventTime ++ "_EVENT") source "ABC123" extraDataJson
          (listener.idGenerator.generate frontTime ++ "_FRONT")
          (listener.idGenerator.generate rearTime ++ "_REAR"))) ↔
      (SqlBuilder.sql backslash).Plain source.toList ∧
        (SqlBuilder.sql backslash).Plain listener.idGenerator.start.toList

/-- A sample event that was built has a source and an image. -/
lemma ListenerImpl.Builds.exists_source {listener : ListenerImpl} {insertSql : String}
    {binaryContents : Dictionary String (Option (List UInt8))}
    (h : listener.Builds insertSql binaryContents) :
    ∃ source image eventTime frontTime rearTime, listener.sourceId = some source ∧
      sampleEvent listener.idGenerator (some source) (some image) eventTime frontTime rearTime =
        .ok (insertSql, binaryContents) := by
  obtain ⟨file, eventTime, frontTime, rearTime, hbuild⟩ := h
  cases hsource : listener.sourceId with
  | none =>
    rw [hsource] at hbuild
    cases hbuild
  | some source =>
    rw [hsource] at hbuild
    cases file with
    | none => cases hbuild
    | some image => exact ⟨source, image, eventTime, frontTime, rearTime, rfl, hbuild⟩

/-- What an insertion has handed to the socket is read by a service as it is meant. -/
lemma readAsMeant_of_sent {cfg : Config} {listener : ListenerImpl} {c : SendCall}
    {log : List Event} {binary : List UInt8} (h : listener.Inserts c)
    (houtcome : c.Outcome cfg log) (hsent : .sent c.thread binary ∈ log) :
    ReadAsMeant cfg listener c binary := by
  obtain ⟨newGuid, insertSql, binaryContents, hbuilds, hrequest⟩ := h
  obtain ⟨source, image, eventTime, frontTime, rearTime, hsource, hbuild⟩ := hbuilds.exists_source
  -- the statement and the contents are those of the sample event
  have hread := fun backslash => sampleEvent_read listener.idGenerator source image eventTime
    frontTime rearTime backslash
  obtain ⟨header, data, harguments, -, hbinary⟩ := houtcome.encoded hsent
  rw [SendCall.arguments, hrequest] at harguments
  cases harguments
  refine ⟨source, image, eventTime, frontTime, rearTime, newGuid, insertSql, binaryContents,
    hsource, EventData.run_readMessage hbinary, ?_, fun backslash => ?_⟩
  · obtain ⟨text, contents, hok, hentries, -⟩ := hread true
    rw [hbuild] at hok
    cases hok
    exact hentries
  · obtain ⟨text, contents, hok, -, hlex⟩ := hread backslash
    rw [hbuild] at hok
    cases hok
    exact hlex

namespace Program

variable {cfg : Config} {listener : ListenerImpl} {p p' : Program} {l : Label}
  {calls : List SendCall}

/-! ## A program that runs by itself -/

/-- The user calls a send method. -/
def Label.isUserSend : Label → Bool
  | client (.call (.send _ _)) => true
  | _ => false

/-- A program as `Main` runs it: the client is attached before anything happens to it, and only its
listener sends. -/
def AsMain : Guard Program Label := fun p l => AttachedFirst p l ∧ l.isUserSend = false

instance (p : Program) (l : Label) : Decidable (AsMain p l) :=
  inferInstanceAs (Decidable (_ ∧ _))

/-- Every call is one of a callback. -/
def FromCallbacks (p : Program) (calls : List SendCall) : Prop :=
  ∀ c ∈ calls, ∃ pc ∈ p.listener.threads, c ∈ pc.calls

/-- A callback that goes on with its calls keeps them. -/
lemma FromCallbacks.set {client : Client} (h : FromCallbacks p calls) {k : ℕ}
    {pc pc' : ListenerImpl.Pc} (hk : p.listener.threads[k]? = some pc)
    (hcalls : ∀ c ∈ pc.calls, c ∈ pc'.calls) :
    FromCallbacks ⟨client, p.listener.shared, p.listener.threads.set k pc'⟩ calls := by
  intro c hc
  obtain ⟨q, hq, hmem⟩ := h c hc
  by_cases hqpc : q = pc
  · subst hqpc
    exact ⟨pc', Pool.mem_set_self hk, hcalls c hmem⟩
  · exact ⟨q, Pool.mem_set_of_ne hk hq hqpc, hmem⟩

/-- A step of a program in which only the listener sends. -/
lemma fromCallbacks_effect (hp : FromCallbacks p calls) (hok : AsMain p l)
    (h : Effect cfg listener p l p') :
    FromCallbacks p' ((watched sendCall p l).toList ++ calls) := by
  cases h with
  | attaches => exact hp
  | runs l client hclient =>
    have hnone : watched sendCall p (.client l) = none := by
      cases l with
      | call call =>
        cases call with
        | send request stamp => cases hok.2
        | _ => rfl
      | _ => rfl
    rw [hnone, foldr_call]
    intro c hc
    obtain ⟨pc, hpc, hmem⟩ := hp c hc
    exact ⟨pc, List.mem_append_left _ hpc, hmem⟩
  | tests k callback hk => exact hp.set hk fun c hc => absurd hc List.not_mem_nil
  | builds k file eventTime frontTime rearTime hk =>
    exact hp.set hk fun c hc => absurd hc List.not_mem_nil
  | sends k newGuid stamp pc request pc' hk hsend =>
    obtain ⟨-, hcalls, -⟩ := send_spec listener [] hsend
      ⟨p.client.threads.length, p.client.shared.log.length, request, stamp⟩
    rw [watched_send hk hsend]
    intro c hc
    rcases List.mem_cons.mp hc with rfl | hc
    · exact ⟨_, Pool.mem_set_self hk, by rw [hcalls]; exact List.mem_cons_self⟩
    · refine hp.set hk (fun c hc => ?_) c hc
      rw [hcalls]
      exact List.mem_cons_of_mem _ hc
  | finishes k pc pc' c hk hawaited hdone =>
    refine hp.set hk fun c hc => ?_
    rw [(awaited_spec listener hawaited).2.1]
    exact hc

/-- In a program in which only the listener sends, every call is one of a callback. -/
theorem fromCallbacks {q : Program × List SendCall}
    (h : ((system cfg listener).observe (watched sendCall)).Reachable
      (System.observed AsMain) q) : FromCallbacks q.1 q.2 := by
  refine System.observe_invariant (R := FromCallbacks) ?_ ?_ h
  · intro c hc
    cases hc
  · intro p seen l p' _ hp hok hstep
    exact fromCallbacks_effect hp hok (step_cases hstep)

/-! ## The sample event -/

/-- The callback runs `OnConnectionSuccess`. -/
def isSuccess (pc : ListenerImpl.Pc) : Bool := pc.callback.isSuccess

/-- A success is told at most once. -/
lemma countP_isSuccess_le_one {ok : Guard Program Label}
    (h : (system cfg listener).Reachable ok p) :
    p.listener.threads.countP isSuccess ≤ 1 := by
  obtain ⟨calls, hcalls⟩ := System.exists_observed (watched sendCall) h
  have hclient := System.reachable_of_observe (client_reachable hcalls)
  have hcount : p.listener.threads.countP isSuccess =
      p.client.shared.log.countP Event.isSuccess := by
    have hmap : p.listener.threads.countP isSuccess =
        (p.listener.threads.map Pc.callback).countP Callback.isSuccess := by
      rw [List.countP_map]
      rfl
    rw [hmap, callbacks_eq h, List.countP_reverse, callbacks, List.countP_filterMap]
    refine List.countP_congr fun e _ => ?_
    cases e with
    | delivered header data => cases data <;> simp [callbackOf, Callback.isSuccess, Event.isSuccess]
    | _ => simp [callbackOf, Callback.isSuccess, Event.isSuccess]
  rw [hcount]
  exact Nat.le_trans (AsyncGDSClient.success_le_loggedIn hclient)
    (AsyncGDSClient.loggedIn_le_one hclient)

/-- The calls that a callback of a success has made: none, or the insertion of the sample event,
and then the query, if the insertion was handed to the socket before; when the callback has returned
without a query, the insertion has thrown. -/
inductive CallsInOrder (listener : ListenerImpl) (log : List Event) (pc : ListenerImpl.Pc) : Prop
  | nothing (h : pc.calls = [])
  | insertion (c : SendCall) (h : pc.calls = [c]) (hinserts : listener.Inserts c)
      (hthrew : pc.isDone = true → ∃ e, .threw c.thread e ∈ log)
  | query (c c' : SendCall) (h : pc.calls = [c', c]) (hinserts : listener.Inserts c)
      (hqueries : Queries c') (hbefore : c.SentBefore c' log)

/-- A callback of a success has made its calls in their order. -/
lemma callsInOrder_of_made {log : List Event} {pc : ListenerImpl.Pc} (h : Made listener log pc)
    (hsuccess : isSuccess pc = true) : CallsInOrder listener log pc := by
  cases h with
  | answer | answering | answered => cases hsuccess
  | testClient | build | failed | insert => exact .nothing rfl
  | inserting c hinserts => exact .insertion c rfl hinserts fun hdone => by cases hdone
  | rejected c hinserts hthrew => exact .insertion c rfl hinserts fun _ => hthrew
  | query c hinserts hsent => exact .insertion c rfl hinserts fun hdone => by cases hdone
  | querying c c' hinserts hqueries hbefore => exact .query c c' rfl hinserts hqueries hbefore
  | queried c c' hinserts hqueries hbefore => exact .query c c' rfl hinserts hqueries hbefore

/-- What a program has sent of its own accord.  Every message besides the login message comes from
a call of a callback; at most one callback is one of a success, which inserts the sample event and
then queries; and what an insertion has handed to the socket is read as it is meant. -/
structure SampleInserted (cfg : Config) (listener : ListenerImpl) (p : Program) : Prop where
  called : ∀ i binary, .sent i binary ∈ p.client.shared.log →
    ∃ pc ∈ p.listener.threads, ∃ c ∈ pc.calls, c.thread = i
  once : p.listener.threads.countP isSuccess ≤ 1
  ordered : ∀ pc ∈ p.listener.threads, isSuccess pc = true →
    CallsInOrder listener p.client.shared.log pc
  read : ∀ pc ∈ p.listener.threads, ∀ c ∈ pc.calls, listener.Inserts c →
    ∀ binary, .sent c.thread binary ∈ p.client.shared.log → ReadAsMeant cfg listener c binary

/-- In every run of a program as `Main` runs it, whatever the socket receives and in whatever order
the client and the callbacks take their steps: the sample event is inserted at most once, before the
query, and is read as it is meant. -/
theorem sampleEvent_inserted {p : Program} (h : (system cfg listener).Reachable AsMain p) :
    SampleInserted cfg listener p := by
  obtain ⟨calls, hcalls⟩ := System.exists_observed (watched sendCall) h
  have hlinked := linked (hcalls.mono fun _ _ hok => hok.1)
  have hsends := AsyncGDSClient.sendCalls (client_reachable hcalls)
  refine ⟨fun i binary hsent => ?_, countP_isSuccess_le_one h, fun pc hpc hsuccess => ?_,
    fun pc hpc c hc hinserts binary hsent => ?_⟩
  · obtain ⟨c, hc, hthread⟩ := hsends.sent i binary hsent
    obtain ⟨pc, hpc, hmem⟩ := fromCallbacks hcalls c hc
    exact ⟨pc, hpc, c, hmem, hthread⟩
  · exact callsInOrder_of_made (hlinked.knows pc hpc).made hsuccess
  · have hmem := (hlinked.knows pc hpc).calls c hc
    exact readAsMeant_of_sent hinserts
      (AsyncGDSClient.SendCalls.outcome_of_ended hsends hmem hsent rfl) hsent

namespace Runs

open Scenario

/-- The sample event is built at one time, inserted and queried. -/
def inserting : List Label :=
  [.testClient 0, .build 0 (some [0x89]) ⟨2025, 1, 31, 12, 0, 0, 7⟩ ⟨2025, 1, 31, 12, 0, 0, 7⟩
    ⟨2025, 1, 31, 12, 0, 0, 7⟩, .send 0 "i" stamp] ++ (steps 2 3).map .client ++
    [.finish 0, .send 0 "q" stamp] ++ (steps 2 4).map .client ++ [.finish 0]

end Runs

/-- After a login the sample event is inserted, and then queried. -/
theorem sampleEvent_inserted_login : ∃ p : Program,
    (p.listener.threads.map fun pc => (isSuccess pc, pc.isDone, pc.calls.map SendCall.thread)) =
      [(true, true, [4, 3])] ∧
    (p.client.shared.log.countP fun e => match e with
      | .sent _ _ => true
      | _ => false) = 2 ∧ SampleInserted Scenario.cfg Runs.demoListener p := by
  have hrun : ∃ p : Program, (system Scenario.cfg Runs.demoListener).Reachable AsMain p ∧
      (p.listener.threads.map fun pc => (isSuccess pc, pc.isDone, pc.calls.map SendCall.thread)) =
        [(true, true, [4, 3])] ∧
      (p.client.shared.log.countP fun e => match e with
        | .sent _ _ => true
        | _ => false) = 2 :=
    System.exists_reachable (.attachClient :: Scenario.login.map .client ++ Runs.inserting)
      (by decide +kernel)
  obtain ⟨p, hreach, hcalls, hsent⟩ := hrun
  exact ⟨p, hcalls, hsent, sampleEvent_inserted hreach⟩

end Program

end Gds
