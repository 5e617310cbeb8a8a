import GdsSdk.MsgPack.Formatter

/-!
# Dynamically typed values

A field of type `object` may hold any MessagePack value.  `Value` is the tree of such a value,
`Value.elements` writes it out, and `readValue` builds it from the elements it meets.  Values
that a program would hold in different types but that have the same MessagePack form are not
distinguished.
-/

namespace MsgPack

/-- A complete MessagePack value. -/
inductive Value where
  | nil
  | boolean (b : Bool)
  | integer (n : ℤ)
  | float32 (bits : UInt32)
  | float64 (bits : UInt64)
  | string (s : String)
  | binary (data : List UInt8)
  | array (values : List Value)
  | map (entries : List (Value × Value))
  | extension (typeCode : Int8) (data : List UInt8)

namespace Value

mutual

/-- The elements of a value. -/
def elements : Value → List Element
  | nil => [.nil]
  | boolean b => [.boolean b]
  | integer n => [.integer n]
  | float32 bits => [.float32 bits]
  | float64 bits => [.float64 bits]
  | string s => [.string s]
  | binary data => [.binary data]
  | array vs => .arrayHeader vs.length :: listElements vs
  | map es => .mapHeader es.length :: entryElements es
  | extension typeCode data => [.extension typeCode data]

/-- The elements of the values of an array. -/
def listElements : List Value → List Element
  | [] => []
  | v :: vs => v.elements ++ listElements vs

/-- The elements of the entries of a map. -/
def entryElements : List (Value × Value) → List Element
  | [] => []
  | (k, v) :: es => k.elements ++ v.elements ++ entryElements es

end

end Value

/-- Build the value that starts here, nested at most `n` deep. -/
def readValueBounded : ℕ → Reader Value
  | 0 => throw .endOfStream
  | n + 1 => do
    match ← Reader.next with
    | .nil => return .nil
    | .boolean b => return .boolean b
    | .integer i => return .integer i
    | .float32 bits => return .float32 bits
    | .float64 bits => return .float64 bits
    | .string s => return .string s
    | .binary data => return .binary data
    | .arrayHeader k => do
      let vs ← Reader.replicate (readValueBounded n) k
      return .array vs
    | .mapHeader k => do
      let es ← Reader.replicate (do
        let key ← readValueBounded n
        let value ← readValueBounded n
        return (key, value)) k
      return .map es
    | .extension typeCode data => return .extension typeCode data

/-- Build the value that starts here.  A value is never nested deeper than it has elements. -/
def readValue : Reader Value := do
  let es ← get
  readValueBounded es.length

open Value

/-- The elements of an array of values are read back one value after the other. -/
lemma Reads.replicate_values {n : ℕ} {vs : List Value}
    (h : ∀ v ∈ vs, Reads (readValueBounded n) v.elements v) :
    Reads (Reader.replicate (readValueBounded n) vs.length) (listElements vs) vs := by
  induction vs with
  | nil => exact Reads.replicate_zero
  | cons v vs ih =>
    rw [listElements]
    exact Reads.replicate_succ (h v List.mem_cons_self)
      (ih fun v' hv' => h v' (List.mem_cons_of_mem v hv'))

/-- The elements of the entries of a map are read back one entry after the other. -/
lemma Reads.replicate_entries {n : ℕ} {es : List (Value × Value)}
    (h : ∀ p ∈ es, Reads (readValueBounded n) p.1.elements p.1 ∧
      Reads (readValueBounded n) p.2.elements p.2) :
    Reads (Reader.replicate (do
      let key ← readValueBounded n
      let value ← readValueBounded n
      return (key, value)) es.length) (entryElements es) es := by
  induction es with
  | nil => exact Reads.replicate_zero
  | cons p es ih =>
    obtain ⟨hkey, hvalue⟩ := h p List.mem_cons_self
    rw [entryElements]
    exact Reads.replicate_succ (hkey.bind (hvalue.map fun v => (p.1, v)))
      (ih fun p' hp' => h p' (List.mem_cons_of_mem p hp'))

/-- A value of an array has no more elements than the array has after its header. -/
lemma length_elements_le_of_mem {v : Value} {vs : List Value} (h : v ∈ vs) :
    v.elements.length ≤ (listElements vs).length := by
  induction vs with
  | nil => cases h
  | cons v' vs ih =>
    rw [listElements, List.length_append]
    rcases List.mem_cons.mp h with rfl | hmem
    · omega
    · have := ih hmem
      omega

/-- The two parts of an entry together have no more elements than the map has after its
header. -/
lemma length_entry_le_of_mem {p : Value × Value} {es : List (Value × Value)} (h : p ∈ es) :
    p.1.elements.length + p.2.elements.length ≤ (entryElements es).length := by
  induction es with
  | nil => cases h
  | cons p' es ih =>
    rw [entryElements, List.length_append, List.length_append]
    rcases List.mem_cons.mp h with rfl | hmem
    · omega
    · have := ih hmem
      omega

/-- A value is read back from its elements with any bound on the nesting that is at least their
number. -/
theorem readValueBounded_elements {n : ℕ} {v : Value} (h : v.elements.length ≤ n) :
    Reads (readValueBounded n) v.elements v := by
  induction n generalizing v with
  | zero => cases v <;> simp [elements] at h
  | succ n ih =>
    cases v with
    | array vs =>
      simp only [elements, List.length_cons] at h ⊢
      have hvs : ∀ v ∈ vs, Reads (readValueBounded n) v.elements v := fun v hv =>
        ih (by have := length_elements_le_of_mem hv; omega)
      exact (Reads.next _).bind_cons ((Reads.replicate_values hvs).map Value.array)
    | map es =>
      simp only [elements, List.length_cons] at h ⊢
      have hes : ∀ p ∈ es, Reads (readValueBounded n) p.1.elements p.1 ∧
          Reads (readValueBounded n) p.2.elements p.2 := fun p hp => by
        have := length_entry_le_of_mem hp
        exact ⟨ih (by omega), ih (by omega)⟩
      exact (Reads.next _).bind_cons ((Reads.replicate_entries hes).map Value.map)
    | _ => exact fun rest => rfl

/-- A value is read back from its elements. -/
theorem readValue_elements (v : Value) : Reads readValue v.elements v := by
  intro rest
  have h : v.elements.length ≤ (v.elements ++ rest).length := by
    rw [List.length_append]
    omega
  exact readValueBounded_elements h rest

namespace Formatter

/-- A field of type `object`; the null object is nil. -/
def object : Formatter Value where
  serialize v := return v.elements.map WriteOp.element
  deserialize := readValue

lemma object_exact : object.Exact := by
  rintro v ws ⟨⟩
  have h : written (v.elements.map WriteOp.element) = v.elements := by
    simp [written, Function.comp_def]
  rw [h]
  exact readValue_elements v

end Formatter

end MsgPack
