import GdsSdk.Messages.Header
import GdsSdk.MsgPack.Value

/-!
# Connection and connection acknowledgement

The two hand-written formatters of the login: the one of `ConnectionData`, whose optional
cluster name is recognised by the type of the first element and whose optional password by the
declared number of elements, and the one of the payload of an acknowledgement, which is told
apart by the type of the next element.
-/

namespace Gds

open MsgPack

/-- The data of a login request. -/
structure ConnectionData where
  clusterName : Option String
  serveOnTheSameConnection : Bool
  protocolVersionNumber : Int32
  fragmentationSupported : Bool
  fragmentationTransmissionUnit : Option Int64
  reservedFields : Option (List Value)

namespace ConnectionData

/-- The password is the first reserved field, which must then be a string or null. -/
def password (d : ConnectionData) : Except WriteError (Option String) :=
  match d.reservedFields with
  | some (field :: _) =>
    match field with
    | .string s => return some s
    | .nil => return none
    | _ => throw .invalidCast
  | some [] | none => return none

/-- Two login requests agree in their cluster name, their two flags, their protocol version, their
transmission unit and their password.  The other reserved fields are not compared: they are never
written. -/
structure SameAs (d d' : ConnectionData) : Prop where
  clusterName : d'.clusterName = d.clusterName
  serveOnTheSameConnection : d'.serveOnTheSameConnection = d.serveOnTheSameConnection
  protocolVersionNumber : d'.protocolVersionNumber = d.protocolVersionNumber
  fragmentationSupported : d'.fragmentationSupported = d.fragmentationSupported
  fragmentationTransmissionUnit :
    d'.fragmentationTransmissionUnit = d.fragmentationTransmissionUnit
  password : d'.password = d.password

end ConnectionData

namespace ConnectionDataTypeFormatter

def writeClusterName : Option String → List WriteOp
  | some name => [.string (some name)]
  | none => []

def writeTransmissionUnit : Option Int64 → WriteOp
  | some unit => .int64 unit
  | none => .nil

def writePassword : Option String → List WriteOp
  | some password => [.arrayHeader 1, .string (some password)]
  | none => []

/-- The declared number of elements: four, and one for each optional part. -/
def length (clusterName password : Option String) : ℕ :=
  4 + (if clusterName.isSome then 1 else 0) + (if password.isSome then 1 else 0)

def serialize (value : ConnectionData) : Except WriteError (List WriteOp) := do
  let password ← value.password
  return .arrayHeader (length value.clusterName password) ::
    (writeClusterName value.clusterName ++
    .boolean value.serveOnTheSameConnection ::
    .int32 value.protocolVersionNumber ::
    .boolean value.fragmentationSupported ::
    writeTransmissionUnit value.fragmentationTransmissionUnit ::
    writePassword password)

/-- The cluster name, and whether its place was taken. -/
def readClusterName : Reader (Option String × Bool) := do
  if (← Reader.nextType) = .string then
    let clusterName ← Reader.readString
    return (clusterName, true)
  else if ← Reader.isNil then
    Reader.readNil
    return (none, true)
  else
    return (none, false)

/-- One of the reserved fields: nil leaves it null. -/
def readReservedField : Reader (Option String) := do
  if ← Reader.isNil then
    Reader.readNil
    return none
  else
    Reader.readString

def readReservedFields : Reader (Option (List (Option String))) := Reader.orNil do
  let innerSize ← Reader.readArrayHeader
  Reader.replicate readReservedField innerSize

/-- A reserved field as the object it is stored as. -/
def toObject : Option String → Value
  | some s => .string s
  | none => .nil

/-- The elements after the place of the cluster name. -/
def readAfterClusterName (size : ℕ) (clusterName : Option String) (clusterIncluded : Bool) :
    Reader ConnectionData := do
  let serveOnSame ← Reader.readBoolean
  let protocol ← Reader.readInt32
  let fragment ← Reader.readBoolean
  let fragTransUnit ← Reader.orNil Reader.readInt64
  let reservedFields ←
    if (size = 5 ∧ ¬ clusterIncluded) ∨ size = 6 then readReservedFields else pure none
  return ⟨clusterName, serveOnSame, protocol, fragment, fragTransUnit,
    reservedFields.map (List.map toObject)⟩

/-- The elements after the header of an array of the declared size. -/
def readFields (size : ℕ) : Reader ConnectionData := do
  let (clusterName, clusterIncluded) ← readClusterName
  readAfterClusterName size clusterName clusterIncluded

def deserialize : Reader (Option ConnectionData) := Reader.orNil do
  let size ← Reader.readArrayHeader
  if size < 4 ∨ 6 < size then
    throw (.format ("ConnectionData expected 4, 5 or 6 elements but found " ++ toString size ++
      " instead!"))
  else
    readFields size

/-- The reserved fields that are left of a login request on the wire. -/
def reservedFields : Option String → Option (List Value)
  | some password => some [.string password]
  | none => none

/-- The login request as its peer receives it: of the reserved fields only the password is
left. -/
def received (d : ConnectionData) : ConnectionData :=
  match d.password with
  | .ok password => { d with reservedFields := reservedFields password }
  | .error _ => d

lemma received_of_password {d : ConnectionData} {password : Option String}
    (h : d.password = .ok password) :
    received d = { d with reservedFields := reservedFields password } := by
  rw [received, h]

/-- The peer receives everything but the reserved fields besides the password. -/
lemma sameAs_received {d : ConnectionData} {password : Option String}
    (h : d.password = .ok password) : d.SameAs (received d) := by
  rw [received_of_password h]
  refine ⟨rfl, rfl, rfl, rfl, rfl, ?_⟩
  rw [h]
  cases password <;> rfl

/-- Reading a cluster name that is present. -/
lemma reads_clusterName (name : String) :
    Reads readClusterName [.string name] (some name, true) := fun _ => rfl

/-- Reading an absent cluster name, recognised by the boolean that follows. -/
lemma reads_noClusterName {β : Type} {k : Option String × Bool → Reader β} {b : Bool}
    {es : List Element} {c : β} (hk : Reads (k (none, false)) (.boolean b :: es) c) :
    Reads (readClusterName >>= k) (.boolean b :: es) c := fun rest => hk rest

lemma reads_transmissionUnit (unit : Option Int64) :
    Reads (Reader.orNil Reader.readInt64) [(writeTransmissionUnit unit).toElement] unit :=
  match unit with
  | none => Reads.orNil_nil
  | some unit => Reads.orNil_some (by simp [writeTransmissionUnit]) (Reads.readInt64 unit)

lemma reads_reservedFields (password : String) :
    Reads readReservedFields [.arrayHeader 1, .string password] (some [some password]) :=
  fun _ => rfl

/-- The elements after the cluster name are read back when the declared size announces the
password exactly if there is one. -/
lemma reads_afterClusterName (d : ConnectionData) (included : Bool) (password : Option String)
    (size : ℕ) (hsize : ((size = 5 ∧ ¬ included) ∨ size = 6) ↔ password.isSome) :
    Reads (readAfterClusterName size d.clusterName included)
      (written (.boolean d.serveOnTheSameConnection :: .int32 d.protocolVersionNumber ::
        .boolean d.fragmentationSupported ::
        writeTransmissionUnit d.fragmentationTransmissionUnit :: writePassword password))
      { d with reservedFields := reservedFields password } := by
  refine (Reads.readBoolean _).bind_cons ?_
  refine (Reads.readInt32 _).bind_cons ?_
  refine (Reads.readBoolean _).bind_cons ?_
  refine (reads_transmissionUnit _).bind_cons ?_
  cases password with
  | none =>
    rw [if_neg (by rw [hsize]; simp)]
    exact Reads.pure _
  | some password =>
    rw [if_pos (by rw [hsize]; simp)]
    exact (reads_reservedFields password).map fun fields =>
      { d with reservedFields := fields.map (List.map toObject) }

/-- A login request is read back up to the reserved fields after the password. -/
theorem reads_serialize {d : ConnectionData} {ws : List WriteOp} (h : serialize d = .ok ws) :
    Reads deserialize (written ws) (some (received d)) := by
  simp only [serialize, bind_eq_ok] at h
  obtain ⟨password, hpassword, ⟨⟩⟩ := h
  rw [received_of_password hpassword]
  refine Reads.orNil_some (by simp) ((Reads.readArrayHeader _).bind_cons ?_)
  have hrange : ¬ (length d.clusterName password < 4 ∨ 6 < length d.clusterName password) := by
    unfold length
    split_ifs <;> omega
  rw [if_neg hrange]
  cases hname : d.clusterName with
  | none =>
    refine reads_noClusterName ?_
    have hread := reads_afterClusterName d false password (length none password)
      (by cases password <;> simp [length])
    rwa [hname] at hread
  | some name =>
    refine (reads_clusterName name).bind_cons ?_
    have hread := reads_afterClusterName d true password (length (some name) password)
      (by cases password <;> simp [length])
    rwa [hname] at hread

end ConnectionDataTypeFormatter

/-- The payload of a connection acknowledgement.  It carries a login request or the reasons of
a rejection, or neither, but not both. -/
structure ConnectionAckTypeData where
  successAckTypeData : Option ConnectionData
  unauthorizedAckTypeData : Option (Dictionary Int32 (Option String))
  exclusive : successAckTypeData = none ∨ unauthorizedAckTypeData = none

namespace ConnectionAckTypeData

def ofSuccess (d : Option ConnectionData) : ConnectionAckTypeData := ⟨d, none, .inr rfl⟩

def ofUnauthorized (reasons : Option (Dictionary Int32 (Option String))) :
    ConnectionAckTypeData := ⟨none, reasons, .inl rfl⟩

def empty : ConnectionAckTypeData := ⟨none, none, .inl rfl⟩

end ConnectionAckTypeData

namespace ConnectionAckTypeDataFormatter

/-- The formatter of the reasons of a rejection. -/
def reasons : Formatter (Option (Dictionary Int32 (Option String))) :=
  Formatter.dictionary Formatter.int32 Formatter.string

def serialize : Option ConnectionAckTypeData → Except WriteError (List WriteOp)
  | none => throw .nullReference
  | some value =>
    match value.successAckTypeData with
    | some d => ConnectionDataTypeFormatter.serialize d
    | none =>
      match value.unauthorizedAckTypeData with
      | some r => reasons.serialize (some r)
      | none => return [.nil]

def deserialize : Reader (Option ConnectionAckTypeData) := do
  if (← Reader.nextType) = .array then
    (some ∘ ConnectionAckTypeData.ofSuccess) <$> ConnectionDataTypeFormatter.deserialize
  else if (← Reader.nextType) = .map then
    (some ∘ ConnectionAckTypeData.ofUnauthorized) <$> reasons.deserialize
  else
    Reader.readNil
    return none

/-- The payload as its peer receives it: an absent payload is a null object. -/
def received : Option ConnectionAckTypeData → Option ConnectionAckTypeData
  | none => none
  | some value =>
    match value.successAckTypeData with
    | some d => some (.ofSuccess (some (ConnectionDataTypeFormatter.received d)))
    | none => value.unauthorizedAckTypeData.map fun r => .ofUnauthorized (some r)

/-- Reading a payload that starts with an array. -/
lemma reads_success {es : List Element} {n : ℕ} {d : Option ConnectionData}
    (h : Reads ConnectionDataTypeFormatter.deserialize (.arrayHeader n :: es) d) :
    Reads deserialize (.arrayHeader n :: es) (some (.ofSuccess d)) :=
  Reads.nextType (h.map (some ∘ ConnectionAckTypeData.ofSuccess))

/-- Reading a payload that starts with a map. -/
lemma reads_unauthorized {es : List Element} {n : ℕ}
    {r : Option (Dictionary Int32 (Option String))}
    (h : Reads reasons.deserialize (.mapHeader n :: es) r) :
    Reads deserialize (.mapHeader n :: es) (some (.ofUnauthorized r)) :=
  Reads.nextType (Reads.nextType (h.map (some ∘ ConnectionAckTypeData.ofUnauthorized)))

/-- A payload is read back, up to what a login request loses. -/
theorem reads_serialize {value : Option ConnectionAckTypeData} {ws : List WriteOp}
    (h : serialize value = .ok ws) : Reads deserialize (written ws) (received value) := by
  rcases value with _ | value
  · simp [serialize] at h
  simp only [serialize] at h
  cases hs : value.successAckTypeData with
  | some d =>
    rw [hs] at h
    have hread := ConnectionDataTypeFormatter.reads_serialize h
    simp only [ConnectionDataTypeFormatter.serialize, bind_eq_ok] at h
    obtain ⟨password, -, ⟨⟩⟩ := h
    simp only [received, hs]
    exact reads_success hread
  | none =>
    rw [hs] at h
    cases hu : value.unauthorizedAckTypeData with
    | some r =>
      rw [hu] at h
      have hread := Formatter.dictionary_exact Formatter.int32_exact Formatter.string_exact _ _ h
      simp only [reasons, Formatter.dictionary, bind_eq_ok] at h
      obtain ⟨ws', -, ⟨⟩⟩ := h
      simp only [received, hs, hu, Option.map_some]
      exact reads_unauthorized hread
    | none =>
      rw [hu] at h
      obtain ⟨⟩ := h
      simp only [received, hs, hu, Option.map_none]
      exact fun rest => rfl

def formatter : Formatter (Option ConnectionAckTypeData) where
  serialize := serialize
  deserialize := deserialize

lemma formatter_roundTrips : formatter.RoundTrips received := fun _ _ h => reads_serialize h

end ConnectionAckTypeDataFormatter

/-- The data of a connection acknowledgement. -/
structure ConnectionAckData where
  status : StatusCode
  ackData : Option ConnectionAckTypeData
  exception : Option String

namespace ConnectionAckData

/-- The acknowledgement of a login request. -/
def ofSuccess (status : StatusCode) (d : Option ConnectionData) : ConnectionAckData :=
  ⟨status, some (.ofSuccess d), none⟩

/-- The rejection of a login request with its reasons. -/
def ofUnauthorized (status : StatusCode) (reasons : Option (Dictionary Int32 (Option String)))
    (exception : Option String) : ConnectionAckData :=
  ⟨status, some (.ofUnauthorized reasons), exception⟩

/-- An acknowledgement without payload. -/
def ofException (status : StatusCode) (exception : Option String) : ConnectionAckData :=
  ⟨status, some .empty, exception⟩

/-- The accessor of the payload dereferences `ackData`, which may be null. -/
def successAckData (d : ConnectionAckData) : Except WriteError (Option ConnectionData) :=
  match d.ackData with
  | some a => return a.successAckTypeData
  | none => throw .nullReference

def unauthorizedAckData (d : ConnectionAckData) :
    Except WriteError (Option (Dictionary Int32 (Option String))) :=
  match d.ackData with
  | some a => return a.unauthorizedAckTypeData
  | none => throw .nullReference

/-- The three fields of the class in key order. -/
def fields : Fields (StatusCode × Option ConnectionAckTypeData × Option String × Unit) :=
  .cons StatusCode.formatter ⟨0⟩ <| .cons ConnectionAckTypeDataFormatter.formatter none <|
    .cons Formatter.string none .nil

def formatter : Formatter (Option ConnectionAckData) :=
  .keyed fields (fun d => (d.status, d.ackData, d.exception, ()))
    (fun (status, ackData, exception, _) => ⟨status, ackData, exception⟩)

/-- The acknowledgement as its peer receives it. -/
def received (d : ConnectionAckData) : ConnectionAckData :=
  { d with ackData := ConnectionAckTypeDataFormatter.received d.ackData }

/-- An acknowledgement is read back up to what its payload loses. -/
theorem formatter_roundTrips : formatter.RoundTrips (Option.map received) :=
  Formatter.keyed_roundTrips <| Fields.cons_roundTrips StatusCode.formatter_exact.roundTrips <|
    Fields.cons_roundTrips ConnectionAckTypeDataFormatter.formatter_roundTrips <|
      Fields.cons_exact Formatter.string_exact Fields.nil_roundTrips

end ConnectionAckData

end Gds
