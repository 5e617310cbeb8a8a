import GdsSdk.Messages.Data.Connection
import GdsSdk.MsgPack.Runs
import GdsSdk.MsgPack.WellFormed

/-!
# The grammar of login requests

A login request on the wire is an array of four mandatory elements, with a cluster name before
them and a block of reserved fields after them, both optional; the declared size of the array
tells how many of the two are there.  `ConnectionLayout` is such a sequence of elements.

The decoder does not compare the declared size with what it finds.  It recognises the cluster
name by its type, whatever the size is, and expects the reserved fields if the size is six, or
five with no cluster name found.  `ConnectionDataTypeFormatter.run_deserialize_eq_ok` says which
layouts it accepts under which sizes, and `acceptsGrammar_iff` on which inputs that is the
grammar.
-/

namespace Gds

open MsgPack

/-- The parts of a login request on the wire.  The cluster name and the reserved fields may be
left out; where they are present, nil may stand for them. -/
structure ConnectionLayout where
  clusterName : Option (Option String)
  serveOnTheSameConnection : Bool
  protocolVersionNumber : Int32
  fragmentationSupported : Bool
  fragmentationTransmissionUnit : Option Int64
  reservedFields : Option (Option (List (Option String)))
  deriving DecidableEq

namespace ConnectionLayout

open ConnectionDataTypeFormatter (writeTransmissionUnit toObject)

/-- The element of a string or of the null string. -/
def stringElement (s : Option String) : Element := (WriteOp.string s).toElement

/-! It is told from the other elements by its type. -/

lemma stringElement_ne_boolean (s : Option String) (b : Bool) : stringElement s ≠ .boolean b := by
  cases s <;> simp [stringElement, WriteOp.string]

lemma stringElement_ne_integer (s : Option String) (i : ℤ) : stringElement s ≠ .integer i := by
  cases s <;> simp [stringElement, WriteOp.string]

lemma stringElement_ne_arrayHeader (s : Option String) (n : ℕ) :
    stringElement s ≠ .arrayHeader n := by
  cases s <;> simp [stringElement, WriteOp.string]

/-- The elements of a cluster name that is present. -/
def clusterElements : Option (Option String) → List Element
  | none => []
  | some name => [stringElement name]

/-- The elements of a block of reserved fields. -/
def blockElements : Option (List (Option String)) → List Element
  | none => [.nil]
  | some fields => .arrayHeader fields.length :: fields.map stringElement

/-- The elements of the reserved fields, if they are present. -/
def reservedElements : Option (Option (List (Option String))) → List Element
  | none => []
  | some block => blockElements block

/-- The four elements that every login request has. -/
def mandatory (l : ConnectionLayout) : List Element :=
  [.boolean l.serveOnTheSameConnection, .integer l.protocolVersionNumber.toInt,
    .boolean l.fragmentationSupported,
    (writeTransmissionUnit l.fragmentationTransmissionUnit).toElement]

/-- The elements of a login request after the header of its array. -/
def elements (l : ConnectionLayout) : List Element :=
  clusterElements l.clusterName ++ (l.mandatory ++ reservedElements l.reservedFields)

/-- The number of optional parts that are present. -/
def parts (l : ConnectionLayout) : ℕ :=
  (if l.clusterName.isSome then 1 else 0) + (if l.reservedFields.isSome then 1 else 0)

/-- The values that the elements are those of: one for each part. -/
def values (l : ConnectionLayout) : List Value :=
  (l.clusterName.map Formatter.ofString).toList ++
    [.boolean l.serveOnTheSameConnection, .integer l.protocolVersionNumber.toInt,
      .boolean l.fragmentationSupported,
      l.fragmentationTransmissionUnit.elim .nil fun unit => .integer unit.toInt] ++
    (l.reservedFields.map fun block =>
      block.elim .nil fun fields => .array (fields.map Formatter.ofString)).toList

/-- A list of strings is a list of values of one element each. -/
lemma listElements_strings (fields : List (Option String)) :
    Value.listElements (fields.map Formatter.ofString) = fields.map stringElement := by
  induction fields with
  | nil => rfl
  | cons field fields ih =>
    rw [List.map_cons, List.map_cons, Value.listElements, ih, Formatter.elements_ofString]
    rfl

/-- The elements of a layout are those of its values. -/
lemma listElements_values (l : ConnectionLayout) :
    Value.listElements l.values = l.elements := by
  have hcluster : Value.listElements (l.clusterName.map Formatter.ofString).toList =
      clusterElements l.clusterName := by
    cases l.clusterName with
    | none => rfl
    | some name => exact (listElements_singleton _).trans (Formatter.elements_ofString name)
  have hunit : (l.fragmentationTransmissionUnit.elim Value.nil fun unit =>
      .integer unit.toInt).elements =
        [(writeTransmissionUnit l.fragmentationTransmissionUnit).toElement] := by
    cases l.fragmentationTransmissionUnit <;> rfl
  have hreserved : Value.listElements (l.reservedFields.map fun block =>
      block.elim Value.nil fun fields => .array (fields.map Formatter.ofString)).toList =
        reservedElements l.reservedFields := by
    rcases l.reservedFields with _ | _ | fields
    · rfl
    · rfl
    · refine (listElements_singleton _).trans ?_
      change (Value.array (fields.map Formatter.ofString)).elements = _
      rw [Value.elements, listElements_strings, List.length_map]
      rfl
  rw [values, listElements_append, listElements_append, hcluster, hreserved, elements,
    List.append_assoc]
  simp only [Value.listElements, hunit, Value.elements, mandatory, List.cons_append,
    List.nil_append]

/-- There are four values and one for every optional part. -/
lemma length_values (l : ConnectionLayout) : l.values.length = 4 + l.parts := by
  unfold values parts
  cases l.clusterName <;> cases l.reservedFields <;> rfl

/-- The login request that the elements stand for. -/
def value (l : ConnectionLayout) : ConnectionData where
  clusterName := l.clusterName.join
  serveOnTheSameConnection := l.serveOnTheSameConnection
  protocolVersionNumber := l.protocolVersionNumber
  fragmentationSupported := l.fragmentationSupported
  fragmentationTransmissionUnit := l.fragmentationTransmissionUnit
  reservedFields := l.reservedFields.join.map (List.map toObject)

/-- The password of a login request on the wire can be read: its reserved fields are strings and
nulls. -/
lemma password_value (l : ConnectionLayout) : ∃ password, l.value.password = .ok password := by
  unfold ConnectionData.password
  rcases hreserved : l.reservedFields.join with _ | _ | ⟨field, fields⟩
  · exact ⟨none, by simp only [value, hreserved]; rfl⟩
  · exact ⟨none, by simp only [value, hreserved]; rfl⟩
  · refine ⟨field, ?_⟩
    simp only [value, hreserved]
    cases field <;> rfl

/-! ## Sizes -/

/-- A layout under a size that the decoder takes for the right one: a cluster name although only
four elements are declared, or reserved fields but no cluster name although six are. -/
def Missized (l : ConnectionLayout) (size : ℕ) : Prop :=
  (size = 4 ∧ l.clusterName.isSome ∧ l.reservedFields = none) ∨
    (size = 6 ∧ l.clusterName = none ∧ l.reservedFields.isSome)

variable {l l' : ConnectionLayout} {size : ℕ}

lemma Missized.four_le (h : l.Missized size) : 4 ≤ size := by
  rcases h with ⟨h, -⟩ | ⟨h, -⟩ <;> omega

lemma Missized.le_six (h : l.Missized size) : size ≤ 6 := by
  rcases h with ⟨h, -⟩ | ⟨h, -⟩ <;> omega

/-- Under the wrong size the decoder expects the reserved fields where they are. -/
lemma Missized.expected (h : l.Missized size) :
    l.reservedFields.isSome ↔ (size = 5 ∧ l.clusterName = none) ∨ size = 6 := by
  rcases h with ⟨rfl, -, hreserved⟩ | ⟨rfl, -, hreserved⟩
  · simp [hreserved]
  · simp [hreserved]

/-- No layout with or without a cluster name like this one has the wrong size. -/
lemma Missized.parts_ne (h : l.Missized size)
    (hcluster : l.clusterName.isSome = l'.clusterName.isSome) : size ≠ 4 + l'.parts := by
  unfold parts
  rcases h with ⟨rfl, hname, -⟩ | ⟨rfl, hname, -⟩
  · rw [← hcluster, if_pos hname]
    omega
  · rw [← hcluster, hname]
    split_ifs <;> simp_all

/-- Apart from the wrong sizes, the size is the number of the elements exactly if it is in range
and makes the decoder expect the reserved fields where they are. -/
lemma size_eq_iff (h : ¬ l.Missized size) :
    size = 4 + l.parts ↔ 4 ≤ size ∧ size ≤ 6 ∧
      (l.reservedFields.isSome ↔ (size = 5 ∧ l.clusterName = none) ∨ size = 6) := by
  unfold Missized at h
  unfold parts
  cases hcluster : l.clusterName <;> cases hreserved : l.reservedFields <;>
    simp_all <;> omega

/-- The elements begin with the cluster name, or with the flag if there is none. -/
lemma elements_head (l : ConnectionLayout) :
    (l.clusterName.isSome ∧ ∃ s es, l.elements = stringElement s :: es) ∨
      (l.clusterName = none ∧ ∃ b es, l.elements = .boolean b :: es) := by
  unfold elements
  cases l.clusterName with
  | some name => exact .inl ⟨rfl, name, _, rfl⟩
  | none => exact .inr ⟨rfl, _, _, rfl⟩

/-- The elements tell whether there is a cluster name, whatever comes after them. -/
lemma cluster_isSome_of_elements_eq {rest rest' : List Element}
    (h : l.elements ++ rest = l'.elements ++ rest') :
    l.clusterName.isSome = l'.clusterName.isSome := by
  rcases l.elements_head with ⟨hname, s, es, hes⟩ | ⟨hname, b, es, hes⟩ <;>
    rcases l'.elements_head with ⟨hname', s', es', hes'⟩ | ⟨hname', b', es', hes'⟩
  all_goals rw [hes, hes', List.cons_append, List.cons_append] at h
  · rw [hname, hname']
  · exact absurd (List.cons.inj h).1 (stringElement_ne_boolean s b')
  · exact absurd (List.cons.inj h).1.symm (stringElement_ne_boolean s' b)
  · rw [hname, hname']

end ConnectionLayout

namespace ConnectionDataTypeFormatter

open Reader ConnectionLayout

variable {es rest : List Element}

/-! ## What the encoder writes -/

/-- A login request is written as the layout of its parts under the size of the layout. -/
lemma written_serialize {d : ConnectionData} {ws : List WriteOp} (h : serialize d = .ok ws) :
    ∃ l : ConnectionLayout, written ws = .arrayHeader (4 + l.parts) :: l.elements := by
  simp only [serialize, bind_eq_ok] at h
  obtain ⟨password, -, ⟨⟩⟩ := h
  refine ⟨⟨d.clusterName.map some, d.serveOnTheSameConnection, d.protocolVersionNumber,
    d.fragmentationSupported, d.fragmentationTransmissionUnit,
    password.map fun s => some [some s]⟩, ?_⟩
  cases d.clusterName <;> cases password <;> rfl

/-! ## What the parts of the decoder accept -/

/-- A cluster name is found where a string or nil stands. -/
lemma run_readClusterName_string (name : Option String) :
    readClusterName.run (stringElement name :: es) = .ok ((name, true), es) := by
  cases name <;> rfl

/-- No cluster name is found where anything else stands. -/
lemma run_readClusterName_boolean (b : Bool) :
    readClusterName.run (.boolean b :: es) = .ok ((none, false), .boolean b :: es) := rfl

/-- A reserved field is a string or nil. -/
lemma run_readReservedField_eq_ok {es rest : List Element} {s : Option String} :
    readReservedField.run es = .ok (s, rest) ↔ es = stringElement s :: rest := by
  constructor
  · intro h
    rcases es with _ | ⟨e, es⟩
    · cases h
    · cases e <;> cases h <;> rfl
  · rintro rfl
    cases s <;> rfl

/-- A block of reserved fields is nil or an array of strings and nils. -/
lemma run_readReservedFields_eq_ok {block : Option (List (Option String))} :
    readReservedFields.run es = .ok (block, rest) ↔ es = blockElements block ++ rest := by
  simp only [readReservedFields, run_orNil_eq_ok, run_bind_eq_ok, run_readArrayHeader_eq_ok,
    run_replicate_eq_ok run_readReservedField_eq_ok]
  constructor
  · rintro (⟨rfl, rfl⟩ | ⟨_, _, fields, -, -, rfl, n, es', rfl, rfl, rfl⟩)
    · rfl
    · rfl
  · rintro rfl
    cases block with
    | none => exact .inl ⟨rfl, rfl⟩
    | some fields => exact .inr ⟨_, _, fields, rfl, by simp, rfl, _, _, rfl, rfl, rfl⟩

/-- The unit of a transmission is a 64-bit integer or nil. -/
lemma run_readTransmissionUnit_eq_ok {unit : Option Int64} :
    (orNil readInt64).run es = .ok (unit, rest) ↔
      es = (writeTransmissionUnit unit).toElement :: rest := by
  rw [run_orNil_eq_ok]
  constructor
  · rintro (⟨rfl, rfl⟩ | ⟨_, _, unit, -, -, rfl, h⟩)
    · rfl
    · exact run_readInt64_eq_ok.mp h
  · rintro rfl
    cases unit with
    | none => exact .inl ⟨rfl, rfl⟩
    | some unit => exact .inr ⟨_, _, unit, rfl, by simp [writeTransmissionUnit], rfl,
        run_readInt64_eq_ok.mpr rfl⟩

/-- The block of reserved fields is read exactly if it is expected. -/
lemma run_readExpectedFields_eq_ok {expected : Prop} [Decidable expected] {β : Type}
    {k : Option (List (Option String)) → Reader β} {b : β} :
    (if expected then readReservedFields >>= k else pure none >>= k).run es = .ok (b, rest) ↔
      ∃ reserved es', (reserved.isSome ↔ expected) ∧ es = reservedElements reserved ++ es' ∧
        (k reserved.join).run es' = .ok (b, rest) := by
  by_cases hexpected : expected
  · rw [if_pos hexpected, run_bind_eq_ok]
    constructor
    · rintro ⟨block, es', hblock, h⟩
      rw [run_readReservedFields_eq_ok] at hblock
      exact ⟨some block, es', by simp [hexpected], hblock, h⟩
    · rintro ⟨reserved, es', hreserved, rfl, h⟩
      obtain ⟨block, rfl⟩ := Option.isSome_iff_exists.mp (hreserved.mpr hexpected)
      exact ⟨block, es', run_readReservedFields_eq_ok.mpr rfl, h⟩
  · rw [if_neg hexpected, pure_bind]
    constructor
    · intro h
      exact ⟨none, es, by simp [hexpected], rfl, h⟩
    · rintro ⟨reserved, es', hreserved, rfl, h⟩
      have hnone : reserved = none := by simpa [hexpected] using hreserved
      subst hnone
      exact h

/-- After the place of the cluster name the decoder accepts the mandatory elements, and a block
of reserved fields if the size and the presence of the cluster name ask for it. -/
lemma run_readAfterClusterName_eq_ok {size : ℕ} {cluster : Option (Option String)}
    {d : ConnectionData} :
    (readAfterClusterName size cluster.join cluster.isSome).run es = .ok (d, rest) ↔
      ∃ l : ConnectionLayout, l.clusterName = cluster ∧
        es = l.mandatory ++ (reservedElements l.reservedFields ++ rest) ∧ d = l.value ∧
        (l.reservedFields.isSome ↔ (size = 5 ∧ cluster = none) ∨ size = 6) := by
  have hcluster : ¬ (cluster.isSome = true) ↔ cluster = none := by simp
  unfold readAfterClusterName
  simp only [run_bind_eq_ok, run_readBoolean_eq_ok, run_readInt32_eq_ok,
    run_readTransmissionUnit_eq_ok]
  constructor
  · rintro ⟨serve, _, rfl, version, _, rfl, fragments, _, rfl, unit, _, rfl, h⟩
    rw [run_readExpectedFields_eq_ok] at h
    obtain ⟨reserved, _, hreserved, rfl, h⟩ := h
    obtain ⟨rfl, rfl⟩ := run_pure_eq_ok.mp h
    rw [hcluster] at hreserved
    exact ⟨⟨cluster, serve, version, fragments, unit, reserved⟩, rfl, rfl, rfl, hreserved⟩
  · rintro ⟨l, rfl, rfl, rfl, hreserved⟩
    refine ⟨_, _, rfl, _, _, rfl, _, _, rfl, _, _, rfl, ?_⟩
    rw [run_readExpectedFields_eq_ok, hcluster]
    exact ⟨l.reservedFields, _, hreserved, rfl, run_pure_eq_ok.mpr ⟨rfl, rfl⟩⟩

/-- The elements after the array header are accepted if they are those of a layout whose reserved
fields are present exactly when the declared size makes the decoder expect them. -/
lemma run_readFields_eq_ok {size : ℕ} {d : ConnectionData} :
    (readFields size).run es = .ok (d, rest) ↔
      ∃ l : ConnectionLayout, es = l.elements ++ rest ∧ d = l.value ∧
        (l.reservedFields.isSome ↔ (size = 5 ∧ l.clusterName = none) ∨ size = 6) := by
  constructor
  · intro h
    rw [readFields, run_bind_eq_ok] at h
    obtain ⟨⟨name, included⟩, es', hname, h⟩ := h
    -- the place of the cluster name: taken, or not
    obtain ⟨cluster, hjoin, hsome, hes⟩ : ∃ cluster : Option (Option String),
        name = cluster.join ∧ included = cluster.isSome ∧ es = clusterElements cluster ++ es' := by
      rcases es with _ | ⟨e, es⟩
      · cases hname
      · cases e with
        | nil =>
          cases hname
          exact ⟨some none, rfl, rfl, rfl⟩
        | string s =>
          cases hname
          exact ⟨some (some s), rfl, rfl, rfl⟩
        | _ =>
          cases hname
          exact ⟨none, rfl, rfl, rfl⟩
    subst hjoin hsome hes
    obtain ⟨l, rfl, rfl, rfl, hreserved⟩ := run_readAfterClusterName_eq_ok.mp h
    refine ⟨l, ?_, rfl, hreserved⟩
    rw [ConnectionLayout.elements, List.append_assoc, List.append_assoc]
  · rintro ⟨l, rfl, rfl, hreserved⟩
    rw [readFields, run_bind_eq_ok]
    refine ⟨(l.clusterName.join, l.clusterName.isSome), _, ?_,
      run_readAfterClusterName_eq_ok.mpr ⟨l, rfl, rfl, rfl, hreserved⟩⟩
    rw [ConnectionLayout.elements, List.append_assoc, List.append_assoc]
    cases hl : l.clusterName with
    | none => exact run_readClusterName_boolean _
    | some name => exact run_readClusterName_string name

/-- An array of the declared size is accepted if the size is in range and its elements are those
of a layout whose reserved fields are present exactly when the size makes the decoder expect
them. -/
theorem run_deserialize_eq_ok {size : ℕ} {v : Option ConnectionData} :
    deserialize.run (.arrayHeader size :: es) = .ok (v, rest) ↔
      4 ≤ size ∧ size ≤ 6 ∧ ∃ l : ConnectionLayout, es = l.elements ++ rest ∧ v = some l.value ∧
        (l.reservedFields.isSome ↔ (size = 5 ∧ l.clusterName = none) ∨ size = 6) := by
  rw [deserialize, run_orNil_eq_ok]
  simp only [run_bind_eq_ok, run_readArrayHeader_eq_ok]
  constructor
  · rintro (⟨h, -⟩ | ⟨_, _, d, h, -, rfl, size', es', h', hread⟩)
    · cases h
    · cases h'
      split_ifs at hread with hsize
      · exact absurd hread (by rw [run_throw_eq_ok]; exact id)
      · obtain ⟨l, hes, rfl, hreserved⟩ := run_readFields_eq_ok.mp hread
        exact ⟨by omega, by omega, l, hes, rfl, hreserved⟩
  · rintro ⟨hlow, hhigh, l, rfl, rfl, hreserved⟩
    refine .inr ⟨_, _, l.value, rfl, by simp, rfl, size, _, rfl, ?_⟩
    rw [if_neg (by omega)]
    exact run_readFields_eq_ok.mpr ⟨l, rfl, rfl, hreserved⟩

/-! ## The decoder and the grammar -/

/-- On an array of the declared size with these elements after its header, the decoder succeeds
exactly if they start with a layout of that size, returns the value of the layout, and consumes
the elements of the layout. -/
def AcceptsGrammar (size : ℕ) (es : List Element) : Prop :=
  ∀ v rest, deserialize.run (.arrayHeader size :: es) = .ok (v, rest) ↔
    ∃ l : ConnectionLayout, size = 4 + l.parts ∧ es = l.elements ++ rest ∧ v = some l.value

/-- On an input that does not start with a layout of a wrong size, the decoder accepts exactly the
grammar, and on the others it does not. -/
theorem acceptsGrammar_iff (size : ℕ) (es : List Element) :
    AcceptsGrammar size es ↔
      ¬ ∃ (l : ConnectionLayout) (rest : List Element),
        es = l.elements ++ rest ∧ l.Missized size := by
  constructor
  · rintro haccepts ⟨l, rest, hes, hsize⟩
    -- the decoder accepts the layout, so the grammar has to have one for the same elements
    have hread : deserialize.run (.arrayHeader size :: es) = .ok (some l.value, rest) :=
      run_deserialize_eq_ok.mpr ⟨hsize.four_le, hsize.le_six, l, hes, rfl, hsize.expected⟩
    obtain ⟨l', hparts, hes', -⟩ := (haccepts _ _).mp hread
    have hcluster := cluster_isSome_of_elements_eq (hes.symm.trans hes')
    exact hsize.parts_ne hcluster hparts
  · intro hmissized v rest
    rw [run_deserialize_eq_ok]
    constructor
    · rintro ⟨hlow, hhigh, l, hes, hv, hexpected⟩
      have hl : ¬ l.Missized size := fun h => hmissized ⟨l, rest, hes, h⟩
      exact ⟨l, (size_eq_iff hl).mpr ⟨hlow, hhigh, hexpected⟩, hes, hv⟩
    · rintro ⟨l, hsize, hes, hv⟩
      have hl : ¬ l.Missized size := fun h => hmissized ⟨l, rest, hes, h⟩
      obtain ⟨hlow, hhigh, hexpected⟩ := (size_eq_iff hl).mp hsize
      exact ⟨hlow, hhigh, l, hes, hv, hexpected⟩

/-- Four elements are declared and five are read, the first of them a cluster name. -/
theorem not_acceptsGrammar_clusterName :
    ¬ AcceptsGrammar 4 [.string "c", .boolean true, .integer 3, .boolean false, .nil] := by
  intro haccepts
  let l : ConnectionLayout := ⟨some (some "c"), true, 3, false, none, none⟩
  have hmissized : l.Missized 4 := .inl (by decide)
  obtain ⟨l', hsize, hes, -⟩ := (haccepts (some l.value) []).mp rfl
  have hes' : l.elements ++ [] = l'.elements ++ [] := hes
  exact hmissized.parts_ne (cluster_isSome_of_elements_eq hes') hsize

end ConnectionDataTypeFormatter

end Gds
