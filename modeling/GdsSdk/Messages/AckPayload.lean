import GdsSdk.Messages.ConnectionGrammar
import GdsSdk.Messages.RoundTrip

/-!
# The payload of a connection acknowledgement

An acknowledgement of a login carries a login request, the reasons of a rejection, or nothing.
`ConnectionAckData.Usable` collects what its users rely on: the two accessors of the payload,
and a round trip that keeps what they show.  The absent payload is an empty object on the side
that builds an acknowledgement and a null reference on the side that decodes it, and the
accessors cope with the former only.  Of the reserved fields of a login request the encoder
writes the password alone, while the decoder reads as many as there are.
`ConnectionAckData.usable_iff` says which acknowledgements are usable.
-/

namespace Gds

open MsgPack

namespace ConnectionData

/-- There are no reserved fields, or only the password. -/
def OnlyPassword (d : ConnectionData) : Prop :=
  d.reservedFields = none ∨ ∃ password, d.reservedFields = some [.string password]

/-- Without other reserved fields the password can be read. -/
lemma OnlyPassword.exists_password {d : ConnectionData} (h : d.OnlyPassword) :
    ∃ password, d.password = .ok password := by
  rcases h with h | ⟨password, h⟩
  · exact ⟨none, by rw [password, h]; rfl⟩
  · exact ⟨some password, by rw [ConnectionData.password, h]; rfl⟩

/-- A login request whose password can be read reaches the peer as it is if and only if it has no
other reserved fields: an empty array and a null password come back as no reserved fields. -/
lemma received_eq_iff {d : ConnectionData} {password : Option String}
    (h : d.password = .ok password) :
    ConnectionDataTypeFormatter.received d = d ↔ d.OnlyPassword := by
  rw [ConnectionDataTypeFormatter.received_of_password h]
  constructor
  · intro heq
    have hfields : ConnectionDataTypeFormatter.reservedFields password = d.reservedFields :=
      congrArg ConnectionData.reservedFields heq
    cases password with
    | none => exact .inl hfields.symm
    | some password => exact .inr ⟨password, hfields.symm⟩
  · intro honly
    have hfields : d.reservedFields = ConnectionDataTypeFormatter.reservedFields password := by
      rcases honly with hnone | ⟨p, hp⟩
      · rw [ConnectionData.password, hnone] at h
        cases h
        exact hnone
      · rw [ConnectionData.password, hp] at h
        cases h
        exact hp
    rw [← hfields]

end ConnectionData

namespace ConnectionAckData

/-- An acknowledgement whose payload can be asked for, holds at most one of its two forms, and
survives being encoded and decoded. -/
structure Usable (d : ConnectionAckData) : Prop where
  accessors : ∃ s r, d.successAckData = .ok s ∧ d.unauthorizedAckData = .ok r ∧
    (s = none ∨ r = none)
  roundTrip : ∃ ws d', formatter.serialize (some d) = .ok ws ∧
    Reads formatter.deserialize (written ws) (some d') ∧
    d'.status = d.status ∧ d'.exception = d.exception ∧
    d'.successAckData = d.successAckData ∧ d'.unauthorizedAckData = d.unauthorizedAckData

/-- The login request of a success payload has no reserved fields but the password. -/
def OnlyPassword (d : ConnectionAckData) : Prop :=
  ∀ s, d.successAckData = .ok (some s) → s.OnlyPassword

/-- The accessors succeed exactly on an acknowledgement with a payload object. -/
lemma successAckData_eq_ok {d : ConnectionAckData} {s : Option ConnectionData} :
    d.successAckData = .ok s ↔ ∃ a, d.ackData = some a ∧ a.successAckTypeData = s := by
  unfold successAckData
  cases d.ackData with
  | none => simp [throw, throwThe, MonadExceptOf.throw]
  | some a => simp [Pure.pure, Except.pure]

/-- A reason list is always written. -/
lemma serialize_reasons (r : Dictionary Int32 (Option String)) :
    ∃ ws, ConnectionAckTypeDataFormatter.reasons.serialize (some r) = .ok ws := by
  have hentries : ∀ ps : List (Int32 × Option String), ∃ ws,
      serializeAll (Formatter.entry Formatter.int32 Formatter.string).serialize ps = .ok ws := by
    intro ps
    induction ps with
    | nil => exact ⟨[], rfl⟩
    | cons p ps ih =>
      obtain ⟨ws, hws⟩ := ih
      rw [serializeAll, hws]
      exact ⟨_, rfl⟩
  obtain ⟨ws, hws⟩ := hentries r.entries
  refine ⟨.mapHeader r.entries.length :: ws, ?_⟩
  simp only [ConnectionAckTypeDataFormatter.reasons, Formatter.dictionary, hws]
  rfl

/-- A payload is written if it is an object whose password, if it has one, can be read. -/
lemma serialize_payload {a : ConnectionAckTypeData}
    (h : ∀ s, a.successAckTypeData = some s → ∃ password, s.password = .ok password) :
    ∃ ws, ConnectionAckTypeDataFormatter.serialize (some a) = .ok ws := by
  cases hs : a.successAckTypeData with
  | some s =>
    obtain ⟨password, hpassword⟩ := h s hs
    simp only [ConnectionAckTypeDataFormatter.serialize, hs,
      ConnectionDataTypeFormatter.serialize, hpassword]
    exact ⟨_, rfl⟩
  | none =>
    cases hr : a.unauthorizedAckTypeData with
    | some r =>
      simp only [ConnectionAckTypeDataFormatter.serialize, hs, hr]
      exact serialize_reasons r
    | none =>
      simp only [ConnectionAckTypeDataFormatter.serialize, hs, hr]
      exact ⟨_, rfl⟩

/-- An acknowledgement is written if its payload is. -/
lemma serialize_of_payload {d : ConnectionAckData} {ws : List WriteOp}
    (h : ConnectionAckTypeDataFormatter.serialize d.ackData = .ok ws) :
    ∃ ws', formatter.serialize (some d) = .ok ws' := by
  simp only [formatter, Formatter.keyed, fields, Fields.cons,
    ConnectionAckTypeDataFormatter.formatter, h]
  exact ⟨_, rfl⟩

/-- What is read back of an acknowledgement that was written. -/
lemma reads_of_serialize {d d' : ConnectionAckData} {ws : List WriteOp}
    (hws : formatter.serialize (some d) = .ok ws)
    (h : Reads formatter.deserialize (written ws) (some d')) : d' = d.received :=
  Option.some.inj (h.unique (formatter_roundTrips (some d) ws hws))

/-- An acknowledgement without payload is decoded to one whose payload cannot be asked for. -/
lemma successAckData_received {d : ConnectionAckData} (h : ¬ d.HasPayload)
    (s : Option ConnectionData) : d.received.successAckData ≠ .ok s := by
  intro hs
  obtain ⟨a, ha, -⟩ := successAckData_eq_ok.mp hs
  simp only [received] at ha
  cases hd : d.ackData with
  | none =>
    rw [hd] at ha
    cases ha
  | some b =>
    have hpayload : ¬ (b.successAckTypeData.isSome ∨ b.unauthorizedAckTypeData.isSome) :=
      fun hb => h ⟨b, hd, hb⟩
    simp only [not_or, Option.not_isSome_iff_eq_none] at hpayload
    simp [hd, ConnectionAckTypeDataFormatter.received, hpayload.1, hpayload.2] at ha

/-- The login request of an acknowledgement as the peer receives it. -/
lemma successAckData_received_some {d : ConnectionAckData} {s : ConnectionData}
    (h : d.successAckData = .ok (some s)) :
    d.received.successAckData = .ok (some (ConnectionDataTypeFormatter.received s)) := by
  obtain ⟨a, ha, hs⟩ := successAckData_eq_ok.mp h
  refine successAckData_eq_ok.mpr ⟨.ofSuccess (some (ConnectionDataTypeFormatter.received s)), ?_,
    rfl⟩
  simp [received, ha, ConnectionAckTypeDataFormatter.received, hs]

/-- A usable acknowledgement has a payload. -/
lemma Usable.hasPayload {d : ConnectionAckData} (h : d.Usable) : d.HasPayload := by
  obtain ⟨⟨s, r, hs, -⟩, ws, d', hws, hread, -, -, hsuccess, -⟩ := h
  obtain rfl := reads_of_serialize hws hread
  by_contra hpayload
  exact successAckData_received hpayload s (hsuccess.trans hs)

/-- The login request of a usable acknowledgement has no reserved fields but the password, since
the others are not written. -/
lemma Usable.onlyPassword {d : ConnectionAckData} (h : d.Usable) : d.OnlyPassword := by
  obtain ⟨-, ws, d', hws, hread, -, -, hsame, -⟩ := h
  obtain rfl := reads_of_serialize hws hread
  intro s hs
  obtain ⟨a, ha, hsuccess⟩ := successAckData_eq_ok.mp hs
  obtain ⟨ws', hws'⟩ := serialize_ackData hws
  simp only [ha, ConnectionAckTypeDataFormatter.serialize, hsuccess] at hws'
  obtain ⟨password, hpassword⟩ := ConnectionDataTypeFormatter.password_of_serialize hws'
  rw [successAckData_received_some hs, hs] at hsame
  exact (ConnectionData.received_eq_iff hpassword).mp (Option.some.inj (Except.ok.inj hsame))

/-- An acknowledgement with a payload reaches the peer as it is, if its login request has no
reserved fields but the password. -/
lemma HasPayload.received_eq {d : ConnectionAckData} (hpayload : d.HasPayload)
    (honly : d.OnlyPassword) : d.received = d := by
  obtain ⟨status, ackData, exception⟩ := d
  obtain ⟨a, rfl, hpayload⟩ := hpayload
  obtain ⟨success, reasons, hexclusive⟩ := a
  have hreceived : ConnectionAckTypeDataFormatter.received (some ⟨success, reasons, hexclusive⟩) =
      some ⟨success, reasons, hexclusive⟩ := by
    cases success with
    | some s =>
      obtain rfl := hexclusive.resolve_left (by simp)
      have hs : s.OnlyPassword := honly s rfl
      obtain ⟨password, hpassword⟩ := hs.exists_password
      simp only [ConnectionAckTypeDataFormatter.received,
        (ConnectionData.received_eq_iff hpassword).mpr hs]
      rfl
    | none =>
      cases reasons with
      | some r => rfl
      | none => simp at hpayload
  simp only [received, hreceived]

/-- An acknowledgement with a payload is usable, if its login request has no reserved fields but
the password. -/
lemma HasPayload.usable {d : ConnectionAckData} (hpayload : d.HasPayload)
    (honly : d.OnlyPassword) : d.Usable := by
  obtain ⟨a, ha⟩ : ∃ a, d.ackData = some a := hpayload.imp fun a ha => ha.1
  have hsuccess : d.successAckData = .ok a.successAckTypeData :=
    successAckData_eq_ok.mpr ⟨a, ha, rfl⟩
  constructor
  · refine ⟨a.successAckTypeData, a.unauthorizedAckTypeData, hsuccess, ?_, a.exclusive⟩
    rw [unauthorizedAckData, ha]
    rfl
  · obtain ⟨ws, hws⟩ := serialize_payload (a := a) fun s hs =>
      (honly s (hs ▸ hsuccess)).exists_password
    rw [← ha] at hws
    obtain ⟨ws', hws'⟩ := serialize_of_payload hws
    have hread := formatter_roundTrips (some d) ws' hws'
    rw [Option.map_some, hpayload.received_eq honly] at hread
    exact ⟨ws', d, hws', hread, rfl, rfl, rfl, rfl⟩

/-- The acknowledgements that are usable are those with a payload in which a login request, if there
is one, has no reserved fields but the password. -/
theorem usable_iff (d : ConnectionAckData) : d.Usable ↔ d.HasPayload ∧ d.OnlyPassword := by
  constructor
  · intro h
    exact ⟨h.hasPayload, h.onlyPassword⟩
  · rintro ⟨hpayload, honly⟩
    exact hpayload.usable honly

/-- No error acknowledgement is usable, for want of a payload. -/
theorem not_usable_ofException (status : StatusCode) (exception : Option String) :
    ¬ (ofException status exception).Usable := by
  intro h
  obtain ⟨a, ha, hpayload⟩ := h.hasPayload
  cases ha
  exact absurd hpayload (by decide)

/-- An internal error, reported without payload. -/
theorem not_usable_error : ¬ (ofException ⟨500⟩ (some "internal error")).Usable :=
  not_usable_ofException ⟨500⟩ (some "internal error")

/-- The constructor for a login request builds a usable acknowledgement if and only if the request
has no reserved fields but the password. -/
theorem usable_ofSuccess_iff (status : StatusCode) (s : ConnectionData) :
    (ofSuccess status (some s)).Usable ↔ s.OnlyPassword := by
  constructor
  · intro h
    exact h.onlyPassword s rfl
  · intro h
    refine HasPayload.usable ⟨_, rfl, .inl rfl⟩ fun s' hs' => ?_
    cases hs'
    exact h

/-- Of two reserved fields the second one is lost. -/
example (status : StatusCode) : ¬ (ofSuccess status
    (some ⟨none, false, 1, false, none, some [.string "p", .string "q"]⟩)).Usable := by
  rw [usable_ofSuccess_iff, ConnectionData.OnlyPassword]
  simp

/-- The constructor for a rejection builds a usable acknowledgement if there are reasons. -/
theorem usable_ofUnauthorized (status : StatusCode) (r : Dictionary Int32 (Option String))
    (exception : Option String) : (ofUnauthorized status (some r) exception).Usable := by
  refine HasPayload.usable ⟨_, rfl, .inr rfl⟩ fun s hs => ?_
  cases hs

/-! ## Decoded acknowledgements -/

/-- Reasons that were decoded from a map are not null. -/
lemma reasons_of_decoded {n : ℕ} {es rest : List Element}
    {r : Option (Dictionary Int32 (Option String))}
    (h : ConnectionAckTypeDataFormatter.reasons.deserialize.run (.mapHeader n :: es) =
      .ok (r, rest)) : r.isSome := by
  rw [ConnectionAckTypeDataFormatter.reasons, Formatter.dictionary, Reader.run_orNil_eq_ok] at h
  rcases h with ⟨h, -⟩ | ⟨_, _, r, -, -, rfl, -⟩
  · cases h
  · rfl

/-- A decoded payload is null where nil stands, a login request whose password can be read where
an array stands, and reasons where a map stands. -/
lemma payload_of_decoded {es rest : List Element} {p : Option ConnectionAckTypeData}
    (h : ConnectionAckTypeDataFormatter.deserialize.run es = .ok (p, rest)) :
    (p = none ∧ es = .nil :: rest) ∨
      (∃ s password, p = some (.ofSuccess (some s)) ∧ s.password = .ok password) ∨
        ∃ r, p = some (.ofUnauthorized (some r)) := by
  rw [ConnectionAckTypeDataFormatter.deserialize, Reader.run_nextType_bind_eq_ok] at h
  obtain ⟨e, es', rfl, h⟩ := h
  by_cases harray : e.type = .array
  · -- a login request
    rw [if_pos harray, Reader.run_map_eq_ok] at h
    obtain ⟨s, hread, rfl⟩ := h
    obtain ⟨size, rfl⟩ := Element.type_eq_array.mp harray
    obtain ⟨-, -, l, -, rfl, -⟩ := ConnectionDataTypeFormatter.run_deserialize_eq_ok.mp hread
    obtain ⟨password, hpassword⟩ := l.password_value
    exact .inr (.inl ⟨l.value, password, rfl, hpassword⟩)
  rw [if_neg harray, Reader.run_nextType_bind] at h
  by_cases hmap : e.type = .map
  · -- the reasons of a rejection
    rw [if_pos hmap, Reader.run_map_eq_ok] at h
    obtain ⟨r, hread, rfl⟩ := h
    obtain ⟨n, rfl⟩ := Element.type_eq_map.mp hmap
    obtain ⟨r, rfl⟩ := Option.isSome_iff_exists.mp (reasons_of_decoded hread)
    exact .inr (.inr ⟨r, rfl⟩)
  · -- anything else has to be nil
    rw [if_neg hmap, Reader.run_bind_eq_ok] at h
    obtain ⟨_, es'', hnil, h⟩ := h
    obtain ⟨rfl, rfl⟩ := Reader.run_pure_eq_ok.mp h
    exact .inl ⟨rfl, Reader.run_readNil_eq_ok.mp hnil⟩

/-- The payload of a decoded acknowledgement is null, or was decoded from an element after the
status. -/
lemma ackData_of_decoded {es rest : List Element} {d : ConnectionAckData}
    (h : formatter.deserialize.run es = .ok (some d, rest)) :
    d.ackData = none ∨ ∃ es' rest',
      ConnectionAckTypeDataFormatter.deserialize.run es' = .ok (d.ackData, rest') := by
  rcases Formatter.run_keyed_cons_cons h with ⟨-, h⟩ | ⟨n, es₁, status, payload, c, -, h, hread⟩
  · cases h
  cases h
  rcases hread with ⟨-, hpayload, -⟩ | ⟨es₂, -, -, hpayload, -⟩ | ⟨k, es₂, es₃, -, -, hpayload, -⟩
  · exact .inl hpayload
  · exact .inl hpayload
  · exact .inr ⟨es₂, es₃, hpayload⟩

/-- A decoded acknowledgement has a payload unless it is null. -/
lemma hasPayload_of_decoded {es rest : List Element} {d : ConnectionAckData}
    (h : formatter.deserialize.run es = .ok (some d, rest)) (hpayload : d.ackData ≠ none) :
    d.HasPayload := by
  rcases ackData_of_decoded h with hnone | ⟨es', rest', hread⟩
  · exact absurd hnone hpayload
  rcases payload_of_decoded hread with ⟨hnone, -⟩ | ⟨s, password, ha, -⟩ | ⟨r, ha⟩
  · exact absurd hnone hpayload
  · exact ⟨_, ha, .inl rfl⟩
  · exact ⟨_, ha, .inr rfl⟩

/-- A decoded acknowledgement is usable unless its payload is null or has a login request with other
reserved fields than a password. -/
theorem usable_iff_of_decoded {es rest : List Element} {d : ConnectionAckData}
    (h : formatter.deserialize.run es = .ok (some d, rest)) :
    d.Usable ↔ d.ackData ≠ none ∧ d.OnlyPassword := by
  constructor
  · intro husable
    refine ⟨fun hnone => ?_, husable.onlyPassword⟩
    obtain ⟨a, ha, -⟩ := husable.hasPayload
    rw [ha] at hnone
    cases hnone
  · rintro ⟨hpayload, honly⟩
    exact (hasPayload_of_decoded h hpayload).usable honly

end ConnectionAckData

end Gds
