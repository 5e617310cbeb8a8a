import GdsSdk.Messages.Message

/-!
# The data part of a decoded message

The header of a message announces the type of its data part, and the decoder of that type reads
what follows.  Where nil stands in the place of the data part, the generated decoders and the one
of a login request return a null reference without looking further, and the message that
`GetMessageFromBinary` returns has no data part.  `MessageManager.carriesAnnounced_iff` says that
this is the only way to such a message.
-/

namespace Gds

open MsgPack

/-- The types whose decoder returns null where nil stands. -/
def DataType.NullOnNil (type : DataType) : Prop :=
  type ∈ [.connection, .connectionAck, .eventAck, .attachmentRequestAck, .attachmentResponse,
    .attachmentResponseAck, .eventDocument, .eventDocumentAck, .queryRequestAck]

instance (type : DataType) : Decidable type.NullOnNil := inferInstanceAs (Decidable (_ ∈ _))

namespace MessageFormatter

variable {α : Type} {r : Reader α} {f : α → MessageData} {es rest : List Element}

/-- The three ways in which a data part is read: by a decoder that returns null for nil, by the one
of an attachment request, and not at all. -/
theorem deserializeData_cases (type : DataType) :
    (type.NullOnNil ∧ ∃ (α : Type) (r : Reader α) (f : α → MessageData),
      (∀ a, (f a).getDataType = type) ∧
        deserializeData type = Option.map f <$> Reader.orNil r) ∨
    (type = .attachmentRequest ∧ deserializeData type =
      (some ∘ .attachmentRequest) <$> AttachmentRequestData.formatter.deserialize) ∨
    (¬ type.NullOnNil ∧ ∃ e, deserializeData type = throw e) := by
  by_cases hnull : type.NullOnNil
  · left
    refine ⟨hnull, ?_⟩
    simp only [DataType.NullOnNil, List.mem_cons, List.not_mem_nil, or_false] at hnull
    rcases hnull with rfl | rfl | rfl | rfl | rfl | rfl | rfl | rfl | rfl
    · exact ⟨_, _, .connection, fun _ => rfl, rfl⟩
    · exact ⟨_, _, .connectionAck, fun _ => rfl, rfl⟩
    · exact ⟨_, _, .eventAck, fun _ => rfl, rfl⟩
    · exact ⟨_, _, .attachmentRequestAck, fun _ => rfl, rfl⟩
    · exact ⟨_, _, .attachmentResponse, fun _ => rfl, rfl⟩
    · exact ⟨_, _, .attachmentResponseAck, fun _ => rfl, rfl⟩
    · exact ⟨_, _, .eventDocument, fun _ => rfl, rfl⟩
    · exact ⟨_, _, .eventDocumentAck, fun _ => rfl, rfl⟩
    · exact ⟨_, _, .queryRequestAck, fun _ => rfl, rfl⟩
  right
  by_cases hrequest : type = .attachmentRequest
  · subst hrequest
    exact .inl ⟨rfl, rfl⟩
  right
  refine ⟨hnull, ?_⟩
  simp only [DataType.NullOnNil, List.mem_cons, List.not_mem_nil, or_false, not_or] at hnull
  obtain ⟨h₀, h₁, h₃, h₅, h₆, h₇, h₈, h₉, h₁₁⟩ := hnull
  -- the types of what only the client sends, and the undefined ones
  rw [deserializeData, if_neg h₀, if_neg h₁, if_neg h₃, if_neg hrequest, if_neg h₅, if_neg h₆,
    if_neg h₇, if_neg h₈, if_neg h₉, if_neg h₁₁]
  split_ifs
  all_goals exact ⟨_, rfl⟩

/-- A decoder that may return null does so exactly where nil stands. -/
lemma run_map_orNil_eq_none :
    (Option.map f <$> Reader.orNil r).run es = .ok (none, rest) ↔ es = .nil :: rest := by
  simp only [Reader.run_map_eq_ok, Reader.run_orNil_eq_ok, Option.map_eq_none_iff]
  constructor
  · rintro ⟨_, ⟨rfl, -⟩ | ⟨_, _, a, -, -, rfl, -⟩, h⟩
    · rfl
    · cases h
  · rintro rfl
    exact ⟨none, .inl ⟨rfl, rfl⟩, rfl⟩

/-- A data part that was decoded has the announced type. -/
theorem getDataType_of_run {type : DataType} {d : MessageData}
    (h : (deserializeData type).run es = .ok (some d, rest)) : d.getDataType = type := by
  rcases deserializeData_cases type with ⟨-, _, r, f, hf, hread⟩ | ⟨rfl, hread⟩ | ⟨-, e, hread⟩
  · rw [hread, Reader.run_map_eq_ok] at h
    obtain ⟨o, -, ho⟩ := h
    obtain ⟨a, -, rfl⟩ := Option.map_eq_some_iff.mp ho
    exact hf a
  · rw [hread, Reader.run_map_eq_ok] at h
    obtain ⟨a, -, ha⟩ := h
    cases ha
    rfl
  · rw [hread, Reader.run_throw_eq_ok] at h
    exact h.elim

/-- No data part is decoded exactly where nil stands for a type whose decoder allows it. -/
theorem run_deserializeData_eq_none {type : DataType} :
    (deserializeData type).run es = .ok (none, rest) ↔ type.NullOnNil ∧ es = .nil :: rest := by
  rcases deserializeData_cases type with
    ⟨htype, _, r, f, -, hread⟩ | ⟨rfl, hread⟩ | ⟨htype, e, hread⟩
  · rw [hread, run_map_orNil_eq_none]
    simp [htype]
  · rw [hread, Reader.run_map_eq_ok]
    constructor
    · rintro ⟨a, -, h⟩
      cases h
    · rintro ⟨htype, -⟩
      exact absurd htype (by decide)
  · rw [hread, Reader.run_throw_eq_ok]
    simp [htype]

/-- A message was decoded from an array header, the ten elements of its header, and what its data
part was decoded from. -/
lemma run_deserialize_eq_ok {m : Message} :
    deserialize.run es = .ok (m, rest) ↔ ∃ n es',
      es = .arrayHeader n :: (written (MessageHeaderFormatter.serialize m.header) ++ es') ∧
        (deserializeData m.header.dataType).run es' = .ok (m.data, rest) := by
  simp only [deserialize, Reader.run_bind_eq_ok, Reader.run_readArrayHeader_eq_ok,
    MessageHeaderFormatter.run_deserialize_eq_ok, Reader.run_pure_eq_ok]
  constructor
  · rintro ⟨n, _, rfl, header, es', rfl, data, _, hdata, rfl, rfl⟩
    exact ⟨n, es', rfl, hdata⟩
  · rintro ⟨n, es', rfl, hdata⟩
    exact ⟨n, _, rfl, m.header, es', rfl, m.data, rest, hdata, rfl, rfl⟩

end MessageFormatter

namespace MessageManager

variable (F : WireFormat) (b : List UInt8)

/-- Whatever message is decoded from the bytes carries data of the type that its header
announces. -/
def CarriesAnnounced : Prop :=
  ∀ m, getMessageFromBinary F b = .ok m →
    ∃ d, m.data = some d ∧ d.getDataType = m.header.dataType

/-- The bytes are those of a message header, which announces a type whose decoder returns null for
nil, and of a nil in the place of the data part. -/
def NilData : Prop :=
  ∃ n header rest, F.elements b =
      .arrayHeader n :: (written (MessageHeaderFormatter.serialize header) ++ .nil :: rest) ∧
    header.dataType.NullOnNil

/-- A decoded message was read from the elements of its bytes. -/
lemma getMessageFromBinary_eq_ok {m : Message} :
    getMessageFromBinary F b = .ok m ↔
      ∃ rest, MessageFormatter.deserialize.run (F.elements b) = .ok (m, rest) := by
  unfold getMessageFromBinary
  cases MessageFormatter.deserialize.run (F.elements b) with
  | error e => simp [throw, throwThe, MonadExceptOf.throw]
  | ok p => simp [Pure.pure, Except.pure, Prod.ext_iff, eq_comm]

/-- A decoded message carries data of the announced type unless nil stands in its place for a type
whose decoder lets that pass. -/
theorem carriesAnnounced_iff : CarriesAnnounced F b ↔ ¬ NilData F b := by
  constructor
  · rintro hcarries ⟨n, header, rest, hb, htype⟩
    have hdata := MessageFormatter.run_deserializeData_eq_none.mpr
      ⟨htype, (rfl : Element.nil :: rest = .nil :: rest)⟩
    have hread : getMessageFromBinary F b = .ok ⟨header, none⟩ :=
      (getMessageFromBinary_eq_ok F b).mpr
        ⟨rest, MessageFormatter.run_deserialize_eq_ok.mpr ⟨n, _, hb, hdata⟩⟩
    obtain ⟨d, hd, -⟩ := hcarries _ hread
    cases hd
  · rintro hnil ⟨header, data⟩ hread
    obtain ⟨rest, hread⟩ := (getMessageFromBinary_eq_ok F b).mp hread
    obtain ⟨n, es, hb, hdata⟩ := MessageFormatter.run_deserialize_eq_ok.mp hread
    cases data with
    | some d => exact ⟨d, rfl, MessageFormatter.getDataType_of_run hdata⟩
    | none =>
      obtain ⟨htype, rfl⟩ := MessageFormatter.run_deserializeData_eq_none.mp hdata
      exact absurd ⟨n, header, rest, hb, htype⟩ hnil

end MessageManager

end Gds
