import GdsSdk.Demo.SendCalls
import GdsSdk.Demo.SqlBuilder

/-!
# The listener of the demo program

The listener of the demo program calls the client from two of its methods.  When the login has
succeeded, `OnConnectionSuccess` builds the sample event, hands it to the client, and then, unless
something was thrown, hands it a query.  The service pushes event documents to a client and expects
an acknowledgement of each, which `OnEventDocument8` gives.  Whatever is thrown in these methods is
caught in them.

A program has a client and such a listener; every call of one of the two methods starts a callback,
which calls the client, while the socket, the user and the other callbacks go on.
-/

namespace Gds

open MsgPack Transition

/-- The fields that the constructor of the listener sets, besides its logger. -/
structure ListenerImpl where
  sourceId : Option String
  idGenerator : IdGenerator

/-! ## The listener -/

namespace ListenerImpl

/-- The methods of the listener that call the client.  The others do nothing but log. -/
inductive Callback where
  | onConnectionSuccess
  | onEventDocument8 (header : MessageHeader)

namespace Callback

/-- The login has succeeded. -/
def isSuccess : Callback → Bool
  | onConnectionSuccess => true
  | onEventDocument8 _ => false

/-- The header of the document that the listener is given. -/
def document : Callback → Option MessageHeader
  | onConnectionSuccess => none
  | onEventDocument8 header => some header

end Callback

/-- The method of the listener that an event is the call of. -/
def callbackOf : Event → Option Callback
  | .onConnectionSuccess _ _ => some .onConnectionSuccess
  | .delivered header (.eventDocument _) => some (.onEventDocument8 header)
  | _ => none

/-- The methods that were called, newest first. -/
def callbacks (sh : Shared) : List Callback := sh.log.filterMap callbackOf

/-- The program point of a callback. -/
inductive Pc where
  /-- It looks whether a client is attached. -/
  | testClient (callback : Callback)
  /-- `OnEventDocument8` calls `SendEventDocumentAck9`. -/
  | answer (header : MessageHeader)
  /-- A thread of the client runs the call. -/
  | answering (header : MessageHeader) (call : SendCall)
  /-- `OnConnectionSuccess` builds the sample event. -/
  | build
  /-- It calls `SendEvent2`. -/
  | insert (insertSql : String) (binaryContents : Dictionary String (Option (List UInt8)))
  | inserting (insertion : SendCall)
  /-- It calls `SendQueryRequest10`. -/
  | query (insertion : SendCall)
  | querying (insertion call : SendCall)
  /-- It has returned, after its calls, newest first. -/
  | done (callback : Callback) (calls : List SendCall)

namespace Pc

/-- The method that the callback runs. -/
def callback : Pc → Callback
  | testClient callback | done callback _ => callback
  | answer header | answering header _ => .onEventDocument8 header
  | build | insert _ _ | inserting _ | query _ | querying _ _ => .onConnectionSuccess

/-- The calls that the callback has made, newest first. -/
def calls : Pc → List SendCall
  | testClient _ | answer _ | build | insert _ _ => []
  | answering _ call => [call]
  | inserting insertion | query insertion => [insertion]
  | querying insertion call => [call, insertion]
  | done _ calls => calls

/-- The callback has returned. -/
def isDone : Pc → Bool
  | done _ _ => true
  | _ => false

end Pc

/-- The call that answers a document: one result with status OK, under the identifier of the
document. -/
def answer (header : MessageHeader) : SendRequest :=
  .eventDocumentAck9 .ok (some [some ⟨.ok, none⟩]) none ⟨header.messageId, none⟩

/-- The call that inserts an event, under a new identifier. -/
def insertion (newGuid insertSql : String)
    (binaryContents : Dictionary String (Option (List UInt8))) : SendRequest :=
  .event2 (some insertSql) (some binaryContents) none ⟨some newGuid, none⟩

/-- The call that queries, under a new identifier. -/
def sampleQuery (newGuid : String) : SendRequest :=
  .queryRequest10 (some SqlBuilder.buildSampleQuery) .none none none none ⟨some newGuid, none⟩

/-- Where a callback goes on that has found a client. -/
def start : Callback → Pc
  | .onConnectionSuccess => .build
  | .onEventDocument8 header => .answer header

/-- A callback looks whether a client is attached. -/
def testClient (attached : Bool) : Pc → Option (Bool × Pc)
  | .testClient callback =>
    some (attached, if attached then start callback else .done callback [])
  | _ => none

/-- Where a callback goes on that has tried to build the sample event out of an image, at three
times. -/
def built (listener : ListenerImpl) (file : Option (List UInt8))
    (eventTime frontTime rearTime : DateTime) : Pc :=
  match sampleEvent listener.idGenerator listener.sourceId file eventTime frontTime rearTime with
  | .ok (insertSql, binaryContents) => .insert insertSql binaryContents
  | .error _ => .done .onConnectionSuccess []

/-- A callback builds the sample event. -/
def build (listener : ListenerImpl) (file : Option (List UInt8))
    (eventTime frontTime rearTime : DateTime) (attached : Bool) : Pc → Option (Bool × Pc)
  | .build => some (attached, listener.built file eventTime frontTime rearTime)
  | _ => none

/-- The request with which a callback calls the client, and where it is during the call. -/
def send (newGuid : String) : Pc → Option (SendRequest × (SendCall → Pc))
  | .answer header => some (answer header, .answering header)
  | .insert insertSql binaryContents =>
    some (insertion newGuid insertSql binaryContents, .inserting)
  | .query insertion => some (sampleQuery newGuid, .querying insertion)
  | _ => none

/-- The call has ended with an exception. -/
def threw (client : Client) (c : SendCall) : Bool :=
  client.shared.log.any fun e => match e with
    | .threw i _ => i = c.thread
    | _ => false

/-- The call that a callback waits for, and where it goes on after it. -/
def awaited (client : Client) : Pc → Option (SendCall × Pc)
  | .answering header call => some (call, .done (.onEventDocument8 header) [call])
  | .inserting insertion => some (insertion,
      if threw client insertion then .done .onConnectionSuccess [insertion] else .query insertion)
  | .querying insertion call => some (call, .done .onConnectionSuccess [call, insertion])
  | _ => none

/-- A callback goes on when its call has come to its end, with or without an exception. -/
def finish (client : Client) (attached : Bool) (pc : Pc) : Option (Bool × Pc) :=
  match awaited client pc with
  | some (call, pc') =>
    match client.threads[call.thread]? with
    | some .done => some (attached, pc')
    | _ => none
  | none => none

/-- A method of the listener is called. -/
def call (callback : Callback) (listener : Pool Bool Pc) : Pool Bool Pc :=
  listener.spawn listener.shared (.testClient callback)

end ListenerImpl

open ListenerImpl

/-! ## A program -/

/-- A client and its listener: whether the client is attached, and the callbacks that were ever
started. -/
structure Program where
  client : Client
  listener : Pool Bool ListenerImpl.Pc

namespace Program

/-- What may happen next. -/
inductive Label where
  | attachClient
  /-- The client is called by the user, hears of its socket, or goes on. -/
  | client (l : Gds.Label)
  /-- Callback `k` looks for the client. -/
  | testClient (k : ℕ)
  /-- Callback `k` builds the sample event. -/
  | build (k : ℕ) (file : Option (List UInt8)) (eventTime frontTime rearTime : DateTime)
  /-- Callback `k` calls the client. -/
  | send (k : ℕ) (newGuid : String) (stamp : Stamp)
  /-- The call of callback `k` returns. -/
  | finish (k : ℕ)

/-- The methods of the listener that a step has called, newest first. -/
def newer (client client' : Client) : List Callback :=
  (callbacks client'.shared).take
    ((callbacks client'.shared).length - (callbacks client.shared).length)

variable (cfg : Config) (listener : ListenerImpl)

/-- One step of a program. -/
def step (p : Program) : Label → Option Program
  | .attachClient => some { p with listener := ⟨true, p.listener.threads⟩ }
  | .client l => (AsyncGDSClient.step cfg p.client l).map fun client =>
    ⟨client, (newer p.client client).foldr call p.listener⟩
  | .testClient k => (p.listener.move k ListenerImpl.testClient).map fun pool =>
    ⟨p.client, pool⟩
  | .build k file eventTime frontTime rearTime =>
    (p.listener.move k (listener.build file eventTime frontTime rearTime)).map fun pool =>
      ⟨p.client, pool⟩
  | .send k newGuid stamp =>
    match p.listener.threads[k]?.bind (ListenerImpl.send newGuid) with
    | some (request, pc) =>
      (AsyncGDSClient.step cfg p.client (.call (.send request stamp))).map fun client =>
        ⟨client, p.listener.shared, p.listener.threads.set k
          (pc ⟨p.client.threads.length, p.client.shared.log.length, request, stamp⟩)⟩
    | none => none
  | .finish k => (p.listener.move k (ListenerImpl.finish p.client)).map fun pool =>
    ⟨p.client, pool⟩

/-- A program from the construction of its client and its listener on. -/
def system : System Program Label where
  init := ⟨(AsyncGDSClient.system cfg).init, false, []⟩
  step := step cfg listener

/-- The label of the client in a step. -/
def clientLabel (p : Program) : Label → Option Gds.Label
  | .client l => some l
  | .send k newGuid stamp =>
    (p.listener.threads[k]?.bind (ListenerImpl.send newGuid)).map fun (request, _) =>
      .call (.send request stamp)
  | .attachClient | .testClient _ | .build _ _ _ _ _ | .finish _ => none

/-- What an observer of the client sees. -/
def watched {α : Type} (sees : Client → Gds.Label → Option α) (p : Program) (l : Label) :
    Option α := (clientLabel p l).bind (sees p.client)

/-- The client is attached before anything happens to it. -/
def AttachedFirst : Guard Program Label := fun p l =>
  match l with
  | .client _ => p.listener.shared = true
  | _ => True

instance (p : Program) (l : Label) : Decidable (AttachedFirst p l) :=
  match l with
  | .client _ => inferInstanceAs (Decidable (_ = true))
  | .attachClient | .testClient _ | .build _ _ _ _ _ | .send _ _ _ | .finish _ =>
    inferInstanceAs (Decidable True)

/-! ## What a step can do -/

/-- What a step of a program does. -/
inductive Effect (p : Program) : Label → Program → Prop
  | attaches : Effect p .attachClient ⟨p.client, true, p.listener.threads⟩
  | runs (l : Gds.Label) (client : Client) (h : AsyncGDSClient.step cfg p.client l = some client) :
    Effect p (.client l) ⟨client, (newer p.client client).foldr call p.listener⟩
  | tests (k : ℕ) (callback : Callback)
      (hk : p.listener.threads[k]? = some (.testClient callback)) :
    Effect p (.testClient k) ⟨p.client, p.listener.shared, p.listener.threads.set k
      (if p.listener.shared then start callback else .done callback [])⟩
  | builds (k : ℕ) (file : Option (List UInt8)) (eventTime frontTime rearTime : DateTime)
      (hk : p.listener.threads[k]? = some .build) :
    Effect p (.build k file eventTime frontTime rearTime) ⟨p.client, p.listener.shared,
      p.listener.threads.set k (listener.built file eventTime frontTime rearTime)⟩
  | sends (k : ℕ) (newGuid : String) (stamp : Stamp) (pc : ListenerImpl.Pc)
      (request : SendRequest) (pc' : SendCall → ListenerImpl.Pc)
      (hk : p.listener.threads[k]? = some pc)
      (h : ListenerImpl.send newGuid pc = some (request, pc')) :
    Effect p (.send k newGuid stamp)
      ⟨p.client.spawn p.client.shared ((Call.send request stamp).start cfg),
        p.listener.shared, p.listener.threads.set k
          (pc' ⟨p.client.threads.length, p.client.shared.log.length, request, stamp⟩)⟩
  | finishes (k : ℕ) (pc pc' : ListenerImpl.Pc) (c : SendCall)
      (hk : p.listener.threads[k]? = some pc) (h : awaited p.client pc = some (c, pc'))
      (hdone : p.client.threads[c.thread]? = some .done) :
    Effect p (.finish k) ⟨p.client, p.listener.shared, p.listener.threads.set k pc'⟩

variable {cfg listener} {ok : Guard Program Label} {p p' : Program} {l : Label}

/-- Every step of a program is one of these. -/
theorem step_cases (h : step cfg listener p l = some p') : Effect cfg listener p l p' := by
  cases l with
  | attachClient =>
    cases h
    exact .attaches
  | client l =>
    obtain ⟨client, hclient, rfl⟩ := Option.map_eq_some_iff.mp h
    exact .runs l client hclient
  | testClient k =>
    obtain ⟨pool, hmove, rfl⟩ := Option.map_eq_some_iff.mp h
    obtain ⟨pc, attached, pc', hk, hnext, rfl⟩ := Pool.move_eq_some.mp hmove
    cases pc with
    | testClient callback =>
      cases hnext
      exact .tests k callback hk
    | _ => cases hnext
  | build k file eventTime frontTime rearTime =>
    obtain ⟨pool, hmove, rfl⟩ := Option.map_eq_some_iff.mp h
    obtain ⟨pc, attached, pc', hk, hnext, rfl⟩ := Pool.move_eq_some.mp hmove
    cases pc with
    | build =>
      cases hnext
      exact .builds k file eventTime frontTime rearTime hk
    | _ => cases hnext
  | send k newGuid stamp =>
    simp only [step] at h
    split at h
    · rename_i request pc' hsend
      obtain ⟨pc, hk, hpc⟩ := Option.bind_eq_some_iff.mp hsend
      cases h
      exact .sends k newGuid stamp pc request pc' hk hpc
    · cases h
  | finish k =>
    obtain ⟨pool, hmove, rfl⟩ := Option.map_eq_some_iff.mp h
    obtain ⟨pc, attached, pc', hk, hnext, rfl⟩ := Pool.move_eq_some.mp hmove
    simp only [ListenerImpl.finish] at hnext
    split at hnext
    · rename_i c pc'' hawaited
      split at hnext
      · rename_i hdone
        cases hnext
        exact .finishes k pc _ c hk hawaited hdone
      · cases hnext
    · cases hnext

/-- The call of a callback is a step of the client. -/
lemma clientLabel_send {k : ℕ} {newGuid : String} {pc : ListenerImpl.Pc} {request : SendRequest}
    {pc' : SendCall → ListenerImpl.Pc} (stamp : Stamp) (hk : p.listener.threads[k]? = some pc)
    (h : ListenerImpl.send newGuid pc = some (request, pc')) :
    clientLabel p (.send k newGuid stamp) = some (.call (.send request stamp)) := by
  simp [clientLabel, hk, h]

/-- A program that is observed at its client simulates the client. -/
theorem simulates_client {α : Type} (sees : Client → Gds.Label → Option α) :
    ((system cfg listener).observe (watched sees)).Simulates (System.observed ok)
      ((AsyncGDSClient.system cfg).observe sees) (System.observed AsyncGDSClient.Unrestricted)
      (fun _ => True) (fun q => (q.1.client, q.2)) where
  init := rfl
  step := by
    rintro ⟨p, seen⟩ l ⟨p', seen'⟩ - - hstep
    obtain ⟨hnext, rfl⟩ := System.step_of_observe hstep
    have hruns : ∀ l', clientLabel p l = some l' →
        AsyncGDSClient.step cfg p.client l' = some p'.client →
        ((AsyncGDSClient.system cfg).observe sees).Reaches
          (System.observed AsyncGDSClient.Unrestricted) (p.client, seen)
          (p'.client, (watched sees p l).toList ++ seen) := by
      intro l' hl hclient
      have hseen : watched sees p l = sees p.client l' := by simp [watched, hl]
      rw [hseen]
      exact (System.Reaches.refl _).step (l := l') trivial (System.observe_step seen hclient)
    have hrests : clientLabel p l = none → p'.client = p.client →
        ((AsyncGDSClient.system cfg).observe sees).Reaches
          (System.observed AsyncGDSClient.Unrestricted) (p.client, seen)
          (p'.client, (watched sees p l).toList ++ seen) := by
      intro hl hclient
      have hseen : (watched sees p l).toList ++ seen = seen := by simp [watched, hl]
      rw [hseen, hclient]
      exact System.Reaches.refl _
    cases step_cases hnext with
    | attaches | tests | builds | finishes => exact hrests rfl rfl
    | runs l client h => exact hruns l rfl h
    | sends k newGuid stamp pc request pc' hk h => exact hruns _ (clientLabel_send stamp hk h) rfl

/-- The client of a program, with what its observer has seen, is in a state that it could have come
to by itself. -/
lemma client_reachable {α : Type} {sees : Client → Gds.Label → Option α} {q : Program × List α}
    (h : ((system cfg listener).observe (watched sees)).Reachable (System.observed ok) q) :
    ((AsyncGDSClient.system cfg).observe sees).Reachable
      (System.observed AsyncGDSClient.Unrestricted) (q.1.client, q.2) :=
  (simulates_client sees).reachable (fun _ _ => trivial) h

end Program

end Gds
