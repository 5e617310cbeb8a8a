import GdsSdk.Messages.Data.Connection
import GdsSdk.Messages.Data.Query
import GdsSdk.MsgPack.Closed

/-!
# What holds of the formatters of all classes

The formatters of the annotated classes are put together from the combinators of the library, so
every closed property holds of them.  Two classes have a part whose formatter is written by hand:
the results in the acknowledgement of an event document, and the payload of the acknowledgement
of a login; for these the property is assumed of that part.
-/

namespace Gds

open MsgPack

variable {P : ∀ {α : Type}, Formatter α → Prop} {PF : ∀ {β : Type}, Fields β → Prop}
  {PN : ∀ {β : Type}, NamedFields β → Prop} (h : Formatter.Closed @P @PF @PN)

include h

lemma StatusCode.formatter_closed : P StatusCode.formatter :=
  h.wrap StatusCode.code StatusCode.mk h.int32

/-! ## Attachments -/

lemma AttachmentRequestData.formatter_closed : P AttachmentRequestData.formatter :=
  h.wrap AttachmentRequestData.request AttachmentRequestData.mk h.string

lemma AttachmentResult.formatter_closed : P AttachmentResult.formatter := by
  refine h.named ?_
  refine h.namedCons h.strings <| h.namedCons h.string <| h.namedCons h.string ?_
  refine h.namedCons h.strings <| h.namedCons h.string ?_
  refine h.namedCons (h.nullable h.int64) <| h.namedCons (h.nullable h.int64) ?_
  exact h.namedCons h.bytes h.namedNil

lemma AttachmentRequestAckTypeData.formatter_closed :
    P AttachmentRequestAckTypeData.formatter := by
  refine h.keyed ?_
  refine h.cons (StatusCode.formatter_closed h) ?_
  exact h.cons (AttachmentResult.formatter_closed h) <| h.cons (h.nullable h.int64) h.nil

lemma AttachmentRequestAckData.formatter_closed : P AttachmentRequestAckData.formatter := by
  refine h.keyed ?_
  refine h.cons (StatusCode.formatter_closed h) ?_
  exact h.cons (AttachmentRequestAckTypeData.formatter_closed h) <| h.cons h.string h.nil

lemma AttachmentResponseData.formatter_closed : P AttachmentResponseData.formatter :=
  h.keyed <| h.cons (AttachmentResult.formatter_closed h) h.nil

lemma AttachmentResponseAckResult.formatter_closed : P AttachmentResponseAckResult.formatter := by
  refine h.named ?_
  exact h.namedCons h.strings <| h.namedCons h.string <| h.namedCons h.string h.namedNil

lemma AttachmentResponseAckTypeData.formatter_closed :
    P AttachmentResponseAckTypeData.formatter := by
  refine h.keyed ?_
  refine h.cons (StatusCode.formatter_closed h) ?_
  exact h.cons (AttachmentResponseAckResult.formatter_closed h) h.nil

lemma AttachmentResponseAckData.formatter_closed : P AttachmentResponseAckData.formatter := by
  refine h.keyed ?_
  refine h.cons (StatusCode.formatter_closed h) ?_
  exact h.cons (AttachmentResponseAckTypeData.formatter_closed h) <| h.cons h.string h.nil

/-! ## Events and event documents -/

lemma FieldDescriptor.formatter_closed : P FieldDescriptor.formatter :=
  h.keyed <| h.cons h.string <| h.cons h.string <| h.cons h.string h.nil

lemma EventData.formatter_closed : P EventData.formatter := by
  refine h.keyed ?_
  refine h.cons h.string <| h.cons (h.dictionary h.requiredString h.bytes) ?_
  exact h.cons (h.list <| h.list <| h.dictionary h.int32 h.boolean) h.nil

lemma SubResult.formatter_closed : P SubResult.formatter := by
  refine h.keyed ?_
  refine h.cons (StatusCode.formatter_closed h) <| h.cons h.string <| h.cons h.string ?_
  exact h.cons (h.nullable h.boolean) <| h.cons h.string <| h.cons h.objects h.nil

lemma OperationResponse.formatter_closed : P OperationResponse.formatter := by
  refine h.keyed ?_
  refine h.cons (StatusCode.formatter_closed h) <| h.cons h.string ?_
  refine h.cons (h.list (FieldDescriptor.formatter_closed h)) ?_
  exact h.cons (h.list (SubResult.formatter_closed h)) h.nil

lemma EventAckData.formatter_closed : P EventAckData.formatter := by
  refine h.keyed ?_
  refine h.cons (StatusCode.formatter_closed h) ?_
  exact h.cons (h.list (OperationResponse.formatter_closed h)) <| h.cons h.string h.nil

lemma EventDocument.formatter_closed : P EventDocument.formatter := by
  refine h.keyed ?_
  refine h.cons h.string <| h.cons (h.list (FieldDescriptor.formatter_closed h)) ?_
  refine h.cons (h.list h.objects) ?_
  exact h.cons (h.dictionary h.int32 h.strings) h.nil

lemma EventDocumentAck.formatter_closed (hresult : P EventDocumentAckResultFormatter.formatter) :
    P EventDocumentAck.formatter := by
  refine h.keyed ?_
  refine h.cons (StatusCode.formatter_closed h) ?_
  exact h.cons (h.list hresult) <| h.cons h.string h.nil

/-! ## Queries -/

lemma GDSDescriptor.formatter_closed : P GDSDescriptor.formatter :=
  h.keyed <| h.cons h.string <| h.cons h.string h.nil

lemma QueryContextDescriptor.formatter_closed : P QueryContextDescriptor.formatter := by
  refine h.keyed ?_
  refine h.cons h.string <| h.cons h.string <| h.cons h.int64 <| h.cons h.int64 ?_
  refine h.cons h.string <| h.cons h.string ?_
  refine h.cons (GDSDescriptor.formatter_closed h) ?_
  exact h.cons h.objects <| h.cons h.strings h.nil

lemma QueryRequestAckTypeData.formatter_closed : P QueryRequestAckTypeData.formatter := by
  refine h.keyed ?_
  refine h.cons h.int64 <| h.cons h.int64 <| h.cons h.boolean ?_
  refine h.cons (QueryContextDescriptor.formatter_closed h) ?_
  refine h.cons (h.list (FieldDescriptor.formatter_closed h)) ?_
  exact h.cons (h.list h.objects) <| h.cons h.int64 h.nil

lemma QueryRequestAckData.formatter_closed : P QueryRequestAckData.formatter := by
  refine h.keyed ?_
  refine h.cons (StatusCode.formatter_closed h) ?_
  exact h.cons (QueryRequestAckTypeData.formatter_closed h) <| h.cons h.string h.nil

lemma NextQueryPageRequestData.formatter_closed : P NextQueryPageRequestData.formatter :=
  h.keyed <| h.cons (QueryContextDescriptor.formatter_closed h) <| h.cons h.int64 h.nil

/-! ## Acknowledgements of a login -/

lemma ConnectionAckTypeDataFormatter.reasons_closed : P ConnectionAckTypeDataFormatter.reasons :=
  h.dictionary h.int32 h.string

lemma ConnectionAckData.formatter_closed (hpayload : P ConnectionAckTypeDataFormatter.formatter) :
    P ConnectionAckData.formatter := by
  refine h.keyed ?_
  refine h.cons (StatusCode.formatter_closed h) ?_
  exact h.cons hpayload <| h.cons h.string h.nil

end Gds
