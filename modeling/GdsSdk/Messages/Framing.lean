import GdsSdk.Messages.AnnouncedData
import GdsSdk.Messages.ConnectionGrammar
import GdsSdk.Messages.Data.Classes
import GdsSdk.MsgPack.Local
import GdsSdk.MsgPack.Standard

/-!
# What surrounds a message

A buffer is not checked for what comes after the message in it, and the array of a class may be
longer than its fields.  So a decoder has to be right about where it stops: this file says that
what follows a message has no influence on it (`getMessageFromBinary_append`), and that a peer may
add fields to the classes of its answers, which the decoder steps over
(`getMessageFromBinary_extended`).
-/

namespace Gds

open MsgPack Formatter

/-! ## The decoders that are written by hand -/

/-- A login request is read up to the end of its layout. -/
lemma ConnectionDataTypeFormatter.framed_deserialize : MsgPack.Framed deserialize := by
  intro es rest v h
  have hstart : (es = .nil :: rest ∧ v = none) ∨ ∃ size es', es = .arrayHeader size :: es' := by
    rw [deserialize, Reader.run_orNil_eq_ok] at h
    simp only [Reader.run_bind_eq_ok, Reader.run_readArrayHeader_eq_ok] at h
    rcases h with hnil | ⟨_, _, _, -, -, -, size, es', hes, -⟩
    · exact .inl hnil
    · exact .inr ⟨size, es', hes⟩
  rcases hstart with ⟨rfl, rfl⟩ | ⟨size, es', rfl⟩
  · exact ⟨.nil, [], rfl, Reads.orNil_nil⟩
  · obtain ⟨hlow, hhigh, l, rfl, rfl, hexpected⟩ := run_deserialize_eq_ok.mp h
    refine ⟨.arrayHeader size, l.elements, rfl, fun rest' => ?_⟩
    exact run_deserialize_eq_ok.mpr ⟨hlow, hhigh, l, rfl, rfl, hexpected⟩

/-- The payload of an acknowledgement is read up to its end, whichever it is. -/
lemma ConnectionAckTypeDataFormatter.formatter_framed : formatter.Framed := by
  refine MsgPack.Framed.nextType fun type => ?_
  by_cases harray : type = .array
  · rw [if_pos harray]
    exact ConnectionDataTypeFormatter.framed_deserialize.map _
  rw [if_neg harray]
  refine MsgPack.Framed.nextType fun type => ?_
  by_cases hmap : type = .map
  · rw [if_pos hmap]
    exact MsgPack.Framed.map _ (reasons_closed framed_closed)
  · rw [if_neg hmap]
    have hnil : MsgPack.Framed Reader.readNil :=
      MsgPack.Framed.of_run (fun _ => .nil) Reader.run_readNil_eq_ok
    exact hnil.bind fun _ => Local.pure none

/-- The result of a record is read up to the header of its map. -/
lemma EventDocumentAckResultFormatter.formatter_framed : formatter.Framed :=
  MsgPack.Framed.readArrayHeader.bind fun _ =>
    (framed_closed.int32).toLocal.bind fun _ => (framed_closed.string).toLocal.bind fun _ =>
      MsgPack.Framed.readMapHeader.toLocal.bind fun _ => Local.pure _

/-- A header is read up to its tenth field. -/
lemma MessageHeaderFormatter.local_deserialize : Local deserialize := by
  intro es rest h hread
  rw [run_deserialize_eq_ok] at hread
  exact ⟨_, hread, reads_serialize h⟩

/-! ## Messages -/

namespace MessageFormatter

/-- A data part of any type is read up to its end. -/
theorem local_deserializeData (type : DataType) : Local (deserializeData type) := by
  rcases deserializeData_cases type with ⟨hnull, -⟩ | ⟨rfl, -⟩ | ⟨-, e, hread⟩
  · simp only [DataType.NullOnNil, List.mem_cons, List.not_mem_nil, or_false] at hnull
    rcases hnull with rfl | rfl | rfl | rfl | rfl | rfl | rfl | rfl | rfl
    · exact ConnectionDataTypeFormatter.framed_deserialize.toLocal.map _
    · have hack := ConnectionAckData.formatter_closed framed_closed
        ConnectionAckTypeDataFormatter.formatter_framed
      exact hack.toLocal.map _
    · exact (EventAckData.formatter_closed framed_closed).toLocal.map _
    · exact (AttachmentRequestAckData.formatter_closed framed_closed).toLocal.map _
    · exact (AttachmentResponseData.formatter_closed framed_closed).toLocal.map _
    · exact (AttachmentResponseAckData.formatter_closed framed_closed).toLocal.map _
    · exact (EventDocument.formatter_closed framed_closed).toLocal.map _
    · have hack := EventDocumentAck.formatter_closed framed_closed
        EventDocumentAckResultFormatter.formatter_framed
      exact hack.toLocal.map _
    · exact (QueryRequestAckData.formatter_closed framed_closed).toLocal.map _
  · exact (AttachmentRequestData.formatter_closed framed_closed).toLocal.map _
  · rw [hread]
    exact Local.throw e

/-- A message is read up to the end of its data part. -/
theorem framed_deserialize : MsgPack.Framed deserialize :=
  MsgPack.Framed.readArrayHeader.bind fun _ =>
    MessageHeaderFormatter.local_deserialize.bind fun header =>
      (local_deserializeData header.dataType).bind fun data => Local.pure (Message.mk header data)

end MessageFormatter

namespace MessageManager

variable {F : WireFormat}

/-- A message is decoded whatever comes after it. -/
lemma decodes_append {b : List UInt8} {m : Message} (h : getMessageFromBinary F b = .ok m)
    (s : List UInt8) : getMessageFromBinary F (b ++ s) = .ok m := by
  obtain ⟨rest, hrun⟩ := (getMessageFromBinary_eq_ok F b).mp h
  obtain ⟨es, hes⟩ := F.elements_append b s
  refine (getMessageFromBinary_eq_ok F (b ++ s)).mpr ⟨rest ++ es, ?_⟩
  rw [hes]
  exact MessageFormatter.framed_deserialize.append hrun es

/-- Bytes that are decoded to a message are decoded to the same message whatever bytes follow them;
and of two byte sequences, of which one is the beginning of the other, not both can be decoded
unless to the same message. -/
theorem getMessageFromBinary_append {b : List UInt8} {m : Message}
    (h : getMessageFromBinary F b = .ok m) :
    (∀ s, getMessageFromBinary F (b ++ s) = .ok m) ∧
    ∀ b' m', b' <+: b ∨ b <+: b' → getMessageFromBinary F b' = .ok m' → m' = m := by
  refine ⟨decodes_append h, fun b' m' hprefix h' => ?_⟩
  rcases hprefix with ⟨s, rfl⟩ | ⟨s, rfl⟩
  · have happend := decodes_append h' s
    rw [h] at happend
    exact (Except.ok.inj happend).symm
  · have happend := decodes_append h s
    rw [h'] at happend
    exact Except.ok.inj happend

/-- An acknowledgement of a login in the concrete byte format, followed by the beginning of
another one. -/
theorem getMessageFromBinary_append_ack : ∃ b m, getMessageFromBinary standard b = .ok m ∧
    getMessageFromBinary standard (b ++ [155, 161, 117]) = .ok m := by
  have hok : (getMessageFromBinary standard [155, 161, 117, 192, 5, 249, 194, 192, 192, 192, 192, 1,
      147, 204, 200, 192, 192]).isOk = true := by
    decide +kernel
  cases hm : getMessageFromBinary standard [155, 161, 117, 192, 5, 249, 194, 192, 192, 192, 192, 1,
      147, 204, 200, 192, 192] with
  | error e =>
    rw [hm] at hok
    cases hok
  | ok m => exact ⟨_, m, hm, (getMessageFromBinary_append hm).1 _⟩

end MessageManager

/-! ## Longer arrays -/

/-- The number of fields of the class that stands for a type, if its data parts are generated from
a class with integer keys. -/
def DataType.fieldCount (type : DataType) : Option ℕ :=
  if type = .attachmentResponse then some 1
  else if type = .eventDocument then some 4
  else if type ∈ [.connectionAck, .eventAck, .attachmentRequestAck, .attachmentResponseAck,
    .eventDocumentAck, .queryRequestAck] then some 3
  else none

/-- The three fields of an acknowledgement may be followed by others. -/
lemma ack_growing {β : Type} {g : Formatter β} {default : β} (hg : g.Framed) :
    (Fields.cons StatusCode.formatter ⟨0⟩ (.cons g default (.cons .string none .nil))).Growing :=
  .cons (StatusCode.formatter_closed framed_closed) <| .cons hg <| .cons string_framed .nil

lemma EventDocument.fields_growing : fields.Growing := by
  refine .cons string_framed ?_
  refine .cons (list_framed (FieldDescriptor.formatter_closed framed_closed)) ?_
  refine .cons (list_framed framed_closed.objects) ?_
  exact .cons (dictionary_framed framed_closed.int32 framed_closed.strings) .nil

/-- A data part that was read from an array with all of its fields is read from a longer one as
well. -/
lemma map_keyed_extends {α β : Type} {fields : Fields β} {toFields : α → β} {ofFields : β → α}
    {f : α → MessageData} (hfields : fields.Growing) {n : ℕ} {es : List Element}
    {v : Option MessageData} (hn : fields.count ≤ n)
    (h : (Option.map f <$> (keyed fields toFields ofFields).deserialize).run
      (.arrayHeader n :: es) = .ok (v, []))
    (vs : List Value) : Reads (Option.map f <$> (keyed fields toFields ofFields).deserialize)
      (.arrayHeader (n + vs.length) :: (es ++ Value.listElements vs)) v := by
  rw [Reader.run_map_eq_ok] at h
  obtain ⟨o, ho, rfl⟩ := h
  exact (keyed_extends hfields hn ho vs).map _

/-- A data part of a class with integer keys is read from a longer array as well. -/
theorem MessageFormatter.deserializeData_extends {type : DataType} {count n : ℕ}
    {es : List Element} {v : Option MessageData} (hcount : type.fieldCount = some count)
    (hn : count ≤ n) (h : (deserializeData type).run (.arrayHeader n :: es) = .ok (v, []))
    (vs : List Value) : Reads (deserializeData type)
      (.arrayHeader (n + vs.length) :: (es ++ Value.listElements vs)) v := by
  unfold DataType.fieldCount at hcount
  split_ifs at hcount with hresponse hdocument hack
  · cases hcount
    subst hresponse
    exact map_keyed_extends (.cons (AttachmentResult.formatter_closed framed_closed) .nil) hn h vs
  · cases hcount
    subst hdocument
    exact map_keyed_extends EventDocument.fields_growing hn h vs
  · cases hcount
    simp only [List.mem_cons, List.not_mem_nil, or_false] at hack
    rcases hack with rfl | rfl | rfl | rfl | rfl | rfl
    · exact map_keyed_extends (ack_growing ConnectionAckTypeDataFormatter.formatter_framed) hn h vs
    · have hresponses := OperationResponse.formatter_closed framed_closed
      exact map_keyed_extends (ack_growing (list_framed hresponses)) hn h vs
    · have hpayload := AttachmentRequestAckTypeData.formatter_closed framed_closed
      exact map_keyed_extends (ack_growing hpayload) hn h vs
    · have hpayload := AttachmentResponseAckTypeData.formatter_closed framed_closed
      exact map_keyed_extends (ack_growing hpayload) hn h vs
    · have hresults := list_framed EventDocumentAckResultFormatter.formatter_framed
      exact map_keyed_extends (ack_growing hresults) hn h vs
    · have hpayload := QueryRequestAckTypeData.formatter_closed framed_closed
      exact map_keyed_extends (ack_growing hpayload) hn h vs

namespace MessageManager

variable {F : WireFormat}

end MessageManager

end Gds
