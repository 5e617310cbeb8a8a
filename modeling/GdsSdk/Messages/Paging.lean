import GdsSdk.Messages.AnnouncedData
import GdsSdk.Messages.Output
import GdsSdk.MsgPack.Relays

/-!
# Paging

The acknowledgement of a query describes where the query stands, and the request for the next page
hands this description back.  `MessageManager.nextQueryPageRequest_handsBack` says that it is
handed back as it came: the array that stood in the acknowledgement on the wire is the first
element of the request.  It composes the decoder of one class with the encoder of another, field by
field.
-/

namespace Gds

open MsgPack Formatter

/-- The value of a node descriptor. -/
def GDSDescriptor.value (clusterName nodeName : Option String) : Value :=
  .array [ofString clusterName, ofString nodeName]

/-- The nine elements of the description of where a query stands. -/
inductive IsQueryContext : Value → Prop
  | mk (id query : Option String) (deliveredNumberOfHits queryStartTime : Int64)
    (consistencyType lastBucketId clusterName nodeName : Option String)
    (fieldValues : Option (List Value)) (partitionNames : Option (List (Option String))) :
    IsQueryContext (.array [ofString id, ofString query, .integer deliveredNumberOfHits.toInt,
      .integer queryStartTime.toInt, ofString consistencyType, ofString lastBucketId,
      GDSDescriptor.value clusterName nodeName, ofList (fun v => v) fieldValues,
      ofList ofString partitionNames])

/-- The elements of a binary are those of a message whose data part is the acknowledgement of a
query, with the value `v` in the place of the description.  The other values are arbitrary. -/
def CarriesContext (F : WireFormat) (b : List UInt8) (v : Value) : Prop :=
  ∃ (header : List Value) (status hits filteredHits hasMorePage : Value)
    (payload ack message : List Value) (rest : List Element), header.length = 10 ∧
    F.elements b = (Value.array (header ++ .array (status ::
      .array (hits :: filteredHits :: hasMorePage :: v :: payload) :: ack) :: message)).elements ++
        rest

/-! ## The description passes through -/

lemma GDSDescriptor.formatter_relays (clusterName nodeName : Option String) :
    GDSDescriptor.formatter.Relays (GDSDescriptor.value clusterName nodeName)
      (some ⟨clusterName, nodeName⟩) := by
  refine keyed_relays ?_ rfl
  refine Fields.cons_relays (string_relays clusterName) ?_
  exact Fields.cons_relays (string_relays nodeName) Fields.nil_relays

/-- Every description is read and written back as it was. -/
theorem QueryContextDescriptor.formatter_relays {v : Value} (h : IsQueryContext v) :
    ∃ context, formatter.Relays v (some context) := by
  obtain ⟨id, query, delivered, startTime, consistency, bucket, cluster, node, values,
    partitions⟩ := h
  refine ⟨⟨id, query, delivered, startTime, consistency, bucket, some ⟨cluster, node⟩, values,
    partitions⟩, keyed_relays ?_ rfl⟩
  refine Fields.cons_relays (string_relays id) ?_
  refine Fields.cons_relays (string_relays query) ?_
  refine Fields.cons_relays (int64_relays delivered) ?_
  refine Fields.cons_relays (int64_relays startTime) ?_
  refine Fields.cons_relays (string_relays consistency) ?_
  refine Fields.cons_relays (string_relays bucket) ?_
  refine Fields.cons_relays (GDSDescriptor.formatter_relays cluster node) ?_
  refine Fields.cons_relays (list_relays object_relays values) ?_
  exact Fields.cons_relays (list_relays string_relays partitions) Fields.nil_relays

/-- The request for the next page is an array of the description and the timeout. -/
lemma NextQueryPageRequestData.formatter_relays {v : Value} {context : QueryContextDescriptor}
    (h : QueryContextDescriptor.formatter.Relays v (some context)) (timeout : Int64) :
    formatter.Relays (.array [v, .integer timeout.toInt]) (some ⟨some context, timeout⟩) := by
  refine keyed_relays ?_ rfl
  exact Fields.cons_relays h (Fields.cons_relays (int64_relays timeout) Fields.nil_relays)

/-! ## Where the description stands in the acknowledgement -/

/-- The payload of an acknowledgement was read with the description from its fourth value. -/
lemma QueryRequestAckTypeData.run_array {hits filteredHits hasMorePage v : Value}
    {vs : List Value} {rest rest' : List Element} {o : Option QueryRequestAckTypeData}
    (h : formatter.deserialize.run
      ((Value.array (hits :: filteredHits :: hasMorePage :: v :: vs)).elements ++ rest) =
        .ok (o, rest')) :
    ∃ payload, o = some payload ∧ QueryContextDescriptor.formatter.deserialize.run
      (v.elements ++ (Value.listElements vs ++ rest)) =
        .ok (payload.queryContextDescriptor, Value.listElements vs ++ rest) := by
  obtain ⟨⟨_, _, _, context, others⟩, rfl, hfields⟩ := run_keyed_array h
  obtain ⟨-, hfields⟩ := Fields.run_cons_values int64_whole hfields
  obtain ⟨-, hfields⟩ := Fields.run_cons_values int64_whole hfields
  obtain ⟨-, hfields⟩ := Fields.run_cons_values boolean_whole hfields
  obtain ⟨hcontext, -⟩ := Fields.run_cons_values
    (QueryContextDescriptor.formatter_closed whole_closed) hfields
  exact ⟨_, rfl, hcontext⟩

/-- An acknowledgement was read with the payload from its second value. -/
lemma QueryRequestAckData.run_array {status payload : Value} {vs : List Value}
    {rest rest' : List Element} {o : Option QueryRequestAckData}
    (h : formatter.deserialize.run ((Value.array (status :: payload :: vs)).elements ++ rest) =
      .ok (o, rest')) :
    ∃ ack, o = some ack ∧ QueryRequestAckTypeData.formatter.deserialize.run
      (payload.elements ++ (Value.listElements vs ++ rest)) =
        .ok (ack.ackData, Value.listElements vs ++ rest) := by
  obtain ⟨⟨_, ackData, others⟩, rfl, hfields⟩ := run_keyed_array h
  obtain ⟨-, hfields⟩ := Fields.run_cons_values (StatusCode.formatter_closed whole_closed) hfields
  obtain ⟨hpayload, -⟩ := Fields.run_cons_values
    (QueryRequestAckTypeData.formatter_closed whole_closed) hfields
  exact ⟨_, rfl, hpayload⟩

/-- The data part of a message was read from its eleventh value. -/
lemma MessageFormatter.run_array {header vs : List Value} {v : Value} {rest rest' : List Element}
    {m : Message} (hlength : header.length = 10)
    (h : deserialize.run ((Value.array (header ++ v :: vs)).elements ++ rest) = .ok (m, rest')) :
    (deserializeData m.header.dataType).run (v.elements ++ (Value.listElements vs ++ rest)) =
      .ok (m.data, rest') := by
  obtain ⟨n, es, hes, hdata⟩ := run_deserialize_eq_ok.mp h
  rw [Value.elements, List.cons_append, List.cons.injEq, listElements_append, Value.listElements,
    List.append_assoc, List.append_assoc, ← m.header.listElements_values] at hes
  -- ten values are skipped on both sides
  have hskip := skipFrom_values header (v.elements ++ (Value.listElements vs ++ rest))
  rw [hes.2, hlength, show 10 = m.header.values.length from rfl, skipFrom_values] at hskip
  cases hskip
  exact hdata

/-- The data part of an acknowledgement of a query was read by its decoder. -/
lemma MessageFormatter.run_queryRequestAck {type : DataType} {ack : QueryRequestAckData}
    {es rest : List Element}
    (h : (deserializeData type).run es = .ok (some (.queryRequestAck ack), rest)) :
    QueryRequestAckData.formatter.deserialize.run es = .ok (some ack, rest) := by
  obtain rfl : DataType.queryRequestAck = type := getDataType_of_run h
  have hread : (Option.map .queryRequestAck <$> QueryRequestAckData.formatter.deserialize).run es =
      .ok (some (MessageData.queryRequestAck ack), rest) := h
  obtain ⟨o, ho, hack⟩ := Reader.run_map_eq_ok.mp hread
  obtain ⟨ack', rfl, hack'⟩ := Option.map_eq_some_iff.mp hack
  cases hack'
  exact ho

namespace MessageManager

/-- Paging hands the description of a query back unchanged: whatever acknowledgement of a query was
received with the nine-element array `v` in the place of the description, the decoder reads `v`
without fail, and the request for the next page that is built from what it has read is an array of
`v` and the timeout, also in the binary of its message. -/
theorem nextQueryPageRequest_handsBack {F : WireFormat} {b : List UInt8} {v : Value}
    {header : MessageHeader} {ack : QueryRequestAckData} (hv : IsQueryContext v)
    (hb : CarriesContext F b v)
    (hread : getMessageFromBinary F b = .ok ⟨header, some (.queryRequestAck ack)⟩)
    (timeout : Int64) :
    ∃ payload context ws, ack.ackData = some payload ∧
      payload.queryContextDescriptor = some context ∧
      Reads QueryContextDescriptor.formatter.deserialize v.elements (some context) ∧
      MessageFormatter.serializeData (.nextQueryPageRequest
        (getNextQueryPageRequest payload.queryContextDescriptor timeout)) = .ok ws ∧
      written ws = (Value.array [v, .integer timeout.toInt]).elements ∧
      ∀ header' b', getBinaryFromMessage F (getMessage header' (some (.nextQueryPageRequest
          (getNextQueryPageRequest payload.queryContextDescriptor timeout)))) = .ok b' →
        F.elements b' = (Value.array (header'.values ++
          [.array [v, .integer timeout.toInt]])).elements := by
  obtain ⟨context, hrelays⟩ := QueryContextDescriptor.formatter_relays hv
  have hreads := hrelays.1
  obtain ⟨-, ws, hws, hwritten⟩ := NextQueryPageRequestData.formatter_relays hrelays timeout
  -- what was decoded is what the description is read as
  obtain ⟨values, status, hits, filteredHits, hasMorePage, others, vs, vs', rest, hlength, hb⟩ := hb
  obtain ⟨rest', hrun⟩ := (getMessageFromBinary_eq_ok F b).mp hread
  rw [hb] at hrun
  have hdata := MessageFormatter.run_queryRequestAck (MessageFormatter.run_array hlength hrun)
  obtain ⟨_, ⟨⟩, hack⟩ := QueryRequestAckData.run_array hdata
  obtain ⟨payload, hpayload, hcontext⟩ := QueryRequestAckTypeData.run_array hack
  rw [hreads] at hcontext
  have hsame : some context = payload.queryContextDescriptor :=
    (Prod.mk.inj (Except.ok.inj hcontext)).1
  have hdataWs : MessageFormatter.serializeData (.nextQueryPageRequest
      (getNextQueryPageRequest payload.queryContextDescriptor timeout)) = .ok ws := by
    rw [← hsame]
    exact hws
  refine ⟨payload, context, ws, hpayload, hsame.symm, hreads, hdataWs, hwritten, ?_⟩
  intro header' b' hb'
  obtain ⟨ws', hserialize, henc⟩ := getBinaryFromMessage_eq_ok.mp hb'
  rw [F.elements_encodeAll (MessageFormatter.covered_serialize hserialize) henc]
  obtain ⟨d, dataWs, v', hd, hdata', hv', hwritten'⟩ :=
    MessageFormatter.written_serialize hserialize
  cases hd
  rw [hdataWs] at hdata'
  cases hdata'
  rw [hwritten']
  exact elements_array_concat header'.values (hv'.symm.trans hwritten)

/-- A page whose description has nulls in it is acknowledged in the concrete byte format. -/
theorem nextQueryPageRequest_handsBack_page :
    let context : Value := .array [.string "q", .nil, .integer 1, .integer (-2), .string "NONE",
      .nil, .array [.string "c", .nil], .array [.boolean true, .nil], .nil]
    ∃ (payload : QueryRequestAckTypeData) (ws : List WriteOp),
      MessageFormatter.serializeData (.nextQueryPageRequest
        (getNextQueryPageRequest payload.queryContextDescriptor 10000)) = .ok ws ∧
      written ws = (Value.array [context, .integer 10000]).elements := by
  intro context
  let header : MessageHeader := ⟨none, none, 0, 0, false, none, none, none, none, ⟨11⟩⟩
  let descriptor : QueryContextDescriptor := ⟨some "q", none, 1, -2, some "NONE", none,
    some ⟨some "c", none⟩, some [.boolean true, .nil], none⟩
  let ack : QueryRequestAckData := ⟨⟨200⟩, some ⟨1, 0, true, some descriptor, none, none, 5⟩, none⟩
  let b : List UInt8 := [0x9b, 0xc0, 0xc0, 0, 0, 0xc2, 0xc0, 0xc0, 0xc0, 0xc0, 11, 0x93, 0xcc, 0xc8,
    0x97, 1, 0, 0xc3, 0x99, 0xa1, 0x71, 0xc0, 1, 0xfe, 0xa4, 0x4e, 0x4f, 0x4e, 0x45, 0xc0, 0x92,
    0xa1, 0x63, 0xc0, 0x92, 0xc3, 0xc0, 0xc0, 0xc0, 0xc0, 5, 0xc0]
  have hread : getMessageFromBinary standard b = .ok ⟨header, some (.queryRequestAck ack)⟩ := by rfl
  have hb : CarriesContext standard b context := by
    refine ⟨header.values, .integer 200, .integer 1, .integer 0, .boolean true,
      [.nil, .nil, .integer 5], [.nil], [], [], rfl, by decide +kernel⟩
  have hv : IsQueryContext context :=
    .mk (some "q") none 1 (-2) (some "NONE") none (some "c") none (some [.boolean true, .nil]) none
  obtain ⟨payload, -, ws, -, -, -, hws, hwritten, -⟩ :=
    nextQueryPageRequest_handsBack hv hb hread 10000
  exact ⟨payload, ws, hws, hwritten⟩

end MessageManager

end Gds
