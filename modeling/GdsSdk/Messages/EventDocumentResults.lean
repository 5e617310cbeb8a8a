import GdsSdk.Messages.Data.Event
import GdsSdk.MsgPack.Runs

/-!
# The results of an event document

The acknowledgement of an event document lists one result for every record: an array of a
status, a notification and a map.  The client writes the map empty and its decoder reads no more
of it than its header, but a peer may put entries into it.

`EventDocumentAckWire` is an acknowledgement as a peer may write it.  Since the decoder consumes
four elements for every result, it is in step with the input after the list exactly if no map
has an entry.
-/

namespace Gds

open MsgPack

/-- A result on the wire, with the entries of its map. -/
structure EventDocumentResultWire where
  status : Int32
  notification : Option String
  entries : List (Value × Value)

namespace EventDocumentResultWire

/-- The elements of a result. -/
def elements (r : EventDocumentResultWire) : List Element :=
  .arrayHeader 3 :: .integer r.status.toInt :: (WriteOp.string r.notification).toElement ::
    (Value.map r.entries).elements

/-- The result that the client keeps. -/
def value (r : EventDocumentResultWire) : EventDocumentAckResult := ⟨⟨r.status⟩, r.notification⟩

/-- A result has four elements and those of the entries of its map. -/
lemma length_elements (r : EventDocumentResultWire) :
    r.elements.length = 4 + (Value.entryElements r.entries).length := by
  simp only [elements, Value.elements, List.length_cons]
  omega

end EventDocumentResultWire

/-- An acknowledgement on the wire. -/
structure EventDocumentAckWire where
  status : Int32
  results : List EventDocumentResultWire
  exception : Option String

namespace EventDocumentAckWire

/-- The elements of an acknowledgement. -/
def elements (w : EventDocumentAckWire) : List Element :=
  .arrayHeader 3 :: .integer w.status.toInt :: .arrayHeader w.results.length ::
    (w.results.flatMap EventDocumentResultWire.elements ++
      [(WriteOp.string w.exception).toElement])

/-- The elements of an acknowledgement and of what comes after it. -/
lemma elements_append (w : EventDocumentAckWire) (rest : List Element) :
    w.elements ++ rest = .arrayHeader 3 :: .integer w.status.toInt ::
      .arrayHeader w.results.length :: (w.results.flatMap EventDocumentResultWire.elements ++
        (WriteOp.string w.exception).toElement :: rest) := by
  simp [elements]

/-- The acknowledgement that it stands for. -/
def value (w : EventDocumentAckWire) : EventDocumentAck :=
  ⟨⟨w.status⟩, some (w.results.map fun r => some r.value), w.exception⟩

end EventDocumentAckWire

/-- An entry of a map has at least one element. -/
lemma entryElements_ne_nil {p : Value × Value} {ps : List (Value × Value)} :
    Value.entryElements (p :: ps) ≠ [] := by
  obtain ⟨k, v⟩ := p
  cases k <;> simp [Value.entryElements, Value.elements]

/-- Results have at least four elements each. -/
lemma le_length_results (rs : List EventDocumentResultWire) :
    rs.length * 4 ≤ (rs.flatMap EventDocumentResultWire.elements).length := by
  induction rs with
  | nil => exact Nat.le_refl 0
  | cons r rs ih =>
    rw [List.flatMap_cons, List.length_append, r.length_elements, List.length_cons]
    omega

/-- Results that have only four elements each have no entries in their maps. -/
lemma entries_eq_nil_of_length {rs : List EventDocumentResultWire}
    (h : (rs.flatMap EventDocumentResultWire.elements).length = rs.length * 4) :
    ∀ r ∈ rs, r.entries = [] := by
  induction rs with
  | nil => simp
  | cons r rs ih =>
    have hrest := le_length_results rs
    rw [List.flatMap_cons, List.length_append, r.length_elements, List.length_cons] at h
    have hentries : Value.entryElements r.entries = [] :=
      List.eq_nil_of_length_eq_zero (by omega)
    refine List.forall_mem_cons.mpr ⟨?_, ih (by omega)⟩
    cases hr : r.entries with
    | nil => rfl
    | cons p ps =>
      rw [hr] at hentries
      exact absurd hentries entryElements_ne_nil

namespace EventDocumentAckResultFormatter

/-- The decoder of a result consumes four elements, whatever the map declares. -/
lemma length_of_run {es rest : List Element} {r : Option EventDocumentAckResult}
    (h : formatter.deserialize.run es = .ok (r, rest)) : es.length = rest.length + 4 := by
  simp only [formatter, deserialize, Reader.run_bind_eq_ok, Reader.run_readArrayHeader_eq_ok,
    Reader.run_readInt32_eq_ok, Reader.run_readString_eq_ok, Reader.run_readMapHeader_eq_ok,
    Reader.run_pure_eq_ok] at h
  obtain ⟨_, _, rfl, _, _, rfl, _, _, rfl, _, _, rfl, -, rfl⟩ := h
  rfl

/-- A result with an empty map is read. -/
lemma reads_elements {r : EventDocumentResultWire} (h : r.entries = []) :
    Reads formatter.deserialize r.elements (some r.value) := by
  rw [EventDocumentResultWire.elements, h]
  refine (Reads.readArrayHeader 3).bind_cons ?_
  refine (Reads.readInt32 r.status).bind_cons ?_
  refine (Reads.readString r.notification).bind_cons ?_
  exact (Reads.readMapHeader 0).bind_cons (Reads.pure _)

end EventDocumentAckResultFormatter

namespace EventDocumentAck

open EventDocumentAckResultFormatter (length_of_run reads_elements)

/-- Results with empty maps are read one after the other. -/
lemma reads_results {rs : List EventDocumentResultWire} (h : ∀ r ∈ rs, r.entries = []) :
    Reads (Reader.replicate EventDocumentAckResultFormatter.formatter.deserialize rs.length)
      (rs.flatMap EventDocumentResultWire.elements) (rs.map fun r => some r.value) := by
  induction rs with
  | nil => exact Reads.replicate_zero
  | cons r rs ih =>
    obtain ⟨hr, hrs⟩ := List.forall_mem_cons.mp h
    exact Reads.replicate_succ (reads_elements hr) (ih hrs)

/-- An acknowledgement without entries in its maps is read. -/
lemma reads_elements {w : EventDocumentAckWire} (h : ∀ r ∈ w.results, r.entries = []) :
    Reads formatter.deserialize w.elements (some w.value) := by
  have hlist : Reads (Formatter.list EventDocumentAckResultFormatter.formatter).deserialize
      (.arrayHeader w.results.length :: w.results.flatMap EventDocumentResultWire.elements)
      (some (w.results.map fun r => some r.value)) :=
    Reads.orNil_some (by simp) ((Reads.readArrayHeader _).bind_cons (reads_results h))
  have hstatus : Reads StatusCode.formatter.deserialize [.integer w.status.toInt] ⟨w.status⟩ :=
    (Reads.readInt32 w.status).map StatusCode.mk
  have hfields : Reads (fields.deserialize 3) _ (⟨w.status⟩, _, w.exception, ()) :=
    Fields.reads_cons hstatus
      (Fields.reads_cons hlist (Fields.reads_cons (Reads.readString w.exception) Reads.skip_zero))
  exact Formatter.reads_keyed hfields

/-- The decoder consumes one element for the exception and four for every result. -/
lemma length_of_run {w : EventDocumentAckWire} {v : Option EventDocumentAck}
    {es rest : List Element}
    (h : formatter.deserialize.run (.arrayHeader 3 :: .integer w.status.toInt ::
      .arrayHeader w.results.length :: es) = .ok (v, rest)) :
    es.length = rest.length + w.results.length * 4 + 1 := by
  simp only [formatter, Formatter.run_keyed_eq_ok, fields] at h
  rcases h with ⟨h, -⟩ | ⟨n, es₁, ⟨status, results, exception, u⟩, hes, -, h⟩
  · cases h
  cases hes
  rw [Fields.run_cons_succ_eq_ok] at h
  obtain ⟨es₂, hstatus, h⟩ := h
  rw [Fields.run_cons_succ_eq_ok] at h
  obtain ⟨es₃, hresults, h⟩ := h
  rw [Fields.run_cons_succ_eq_ok] at h
  obtain ⟨es₄, hexception, h⟩ := h
  -- the status
  simp only [StatusCode.formatter, Reader.run_map_eq_ok, Reader.run_readInt32_eq_ok] at hstatus
  obtain ⟨_, hstatus, -⟩ := hstatus
  obtain ⟨-, rfl⟩ := List.cons.inj hstatus
  -- the results
  rw [Formatter.run_list_eq_ok] at hresults
  rcases hresults with ⟨hnil, -⟩ | ⟨n, es₅, as, hes, -, hresults⟩
  · cases hnil
  cases hes
  have hlength := Reader.length_of_run_replicate
    EventDocumentAckResultFormatter.length_of_run hresults
  -- the exception, after which nothing is left to skip
  obtain rfl := Reader.run_readString_eq_ok.mp hexception
  rw [Fields.nil, Reader.run_skip_eq_ok, skipFrom] at h
  cases h
  rw [hlength, List.length_cons]
  omega

/-- An acknowledgement is decoded in step with its input, whatever comes after it, exactly if
none of its maps has an entry. -/
theorem run_deserialize_elements_iff (w : EventDocumentAckWire) (rest : List Element) :
    formatter.deserialize.run (w.elements ++ rest) = .ok (some w.value, rest) ↔
      ∀ r ∈ w.results, r.entries = [] := by
  constructor
  · intro h
    rw [w.elements_append] at h
    have hlength := length_of_run h
    rw [List.length_append, List.length_cons] at hlength
    exact entries_eq_nil_of_length (by omega)
  · intro h
    exact reads_elements h rest

/-- One result whose map has an entry: what is read as the exception is the key of the entry. -/
theorem run_deserialize_entry :
    let w : EventDocumentAckWire := ⟨200, [⟨201, none, [(.string "id", .integer 1)]⟩], some "e"⟩
    formatter.deserialize.run w.elements =
        .ok (some ⟨⟨200⟩, some [some ⟨⟨201⟩, none⟩], some "id"⟩, [.integer 1, .string "e"]) ∧
      formatter.deserialize.run w.elements ≠ .ok (some w.value, []) := by
  decide

end EventDocumentAck

end Gds
