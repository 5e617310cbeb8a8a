import Mathlib.Algebra.Ring.Int.Defs
import Mathlib.Data.Int.Notation
import Mathlib.Data.List.Basic
import Mathlib.Data.Nat.Notation
import Mathlib.Tactic.Common

/-!
# MessagePack streams

A MessagePack buffer is read one *element* at a time: a scalar, a string or binary block, or
the header of an array or of a map.  `Element` lists what a reader can meet and `WriteOp` what
a writer can append; a `WireFormat` is a byte encoding of the two, given by the laws that the
reading and the writing side rely on.

A reader never looks at bytes directly but at the elements it meets, so a buffer is treated as
the list `WireFormat.elements b` of the elements that can be read from it, up to the end of the
buffer, the first byte that starts no element, or the first header that declares more parts than
there are bytes left.
-/

namespace MsgPack

/-- One element of a MessagePack stream.  Strings are sequences of Unicode scalar values. -/
inductive Element where
  | nil
  | boolean (b : Bool)
  | integer (n : ℤ)
  | float32 (bits : UInt32)
  | float64 (bits : UInt64)
  | string (s : String)
  | binary (data : List UInt8)
  | arrayHeader (count : ℕ)
  | mapHeader (count : ℕ)
  | extension (typeCode : Int8) (data : List UInt8)
  deriving DecidableEq

/-- What a reader learns by peeking at the next element. -/
inductive ElementType where
  | nil | boolean | integer | float | string | binary | array | map | extension
  deriving DecidableEq

namespace Element

/-- The type a reader reports for an element. -/
def type : Element → ElementType
  | nil => .nil
  | boolean _ => .boolean
  | integer _ => .integer
  | float32 _ | float64 _ => .float
  | string _ => .string
  | binary _ => .binary
  | arrayHeader _ => .array
  | mapHeader _ => .map
  | extension _ _ => .extension

/-- Nil is the only element of its type. -/
lemma type_eq_nil {e : Element} : e.type = .nil ↔ e = .nil := by
  cases e <;> simp [type]

lemma type_eq_array {e : Element} : e.type = .array ↔ ∃ n, e = .arrayHeader n := by
  cases e <;> simp [type]

lemma type_eq_map {e : Element} : e.type = .map ↔ ∃ n, e = .mapHeader n := by
  cases e <;> simp [type]

/-- The number of complete values that must follow an element for its own value to be
complete. -/
def arity : Element → ℕ
  | arrayHeader n => n
  | mapHeader n => 2 * n
  | _ => 0

end Element

/-- One call on a writer: an element in its shortest form, or an integer in a form of fixed
width. -/
inductive WriteOp where
  | element (e : Element)
  | int32 (n : Int32)
  | int64 (n : Int64)
  deriving DecidableEq

namespace WriteOp

/-- The element that a reader meets where the call has written. -/
def toElement : WriteOp → Element
  | element e => e
  | int32 n => .integer n.toInt
  | int64 n => .integer n.toInt

/-! The calls of a writer. -/

def nil : WriteOp := .element .nil

def boolean (b : Bool) : WriteOp := .element (.boolean b)

/-- An integer in its shortest form. -/
def integer (n : ℤ) : WriteOp := .element (.integer n)

/-- A string; the null string is nil. -/
def string : Option String → WriteOp
  | none => .element .nil
  | some s => .element (.string s)

/-- A binary block; the null array is nil. -/
def binary : Option (List UInt8) → WriteOp
  | none => .element .nil
  | some data => .element (.binary data)

def arrayHeader (n : ℕ) : WriteOp := .element (.arrayHeader n)

def mapHeader (n : ℕ) : WriteOp := .element (.mapHeader n)

@[simp] lemma toElement_element (e : Element) : (element e).toElement = e := rfl

@[simp] lemma toElement_nil : nil.toElement = .nil := rfl

@[simp] lemma toElement_boolean (b : Bool) : (boolean b).toElement = .boolean b := rfl

@[simp] lemma toElement_integer (n : ℤ) : (integer n).toElement = .integer n := rfl

@[simp] lemma toElement_arrayHeader (n : ℕ) : (arrayHeader n).toElement = .arrayHeader n := rfl

@[simp] lemma toElement_mapHeader (n : ℕ) : (mapHeader n).toElement = .mapHeader n := rfl

@[simp] lemma toElement_int32 (n : Int32) : (int32 n).toElement = .integer n.toInt := rfl

@[simp] lemma toElement_int64 (n : Int64) : (int64 n).toElement = .integer n.toInt := rfl

end WriteOp

/-- The elements that a sequence of writer calls produces. -/
def written (ws : List WriteOp) : List Element := ws.map WriteOp.toElement

@[simp] lemma written_nil : written [] = [] := rfl

@[simp] lemma written_cons (w : WriteOp) (ws : List WriteOp) :
    written (w :: ws) = w.toElement :: written ws := rfl

@[simp] lemma written_append (ws ws' : List WriteOp) :
    written (ws ++ ws') = written ws ++ written ws' := List.map_append

lemma length_written (ws : List WriteOp) : (written ws).length = ws.length := List.length_map _

/-- After every element there are at least as many others as it declares parts. -/
def Covered : List Element → Prop
  | [] => True
  | e :: es => e.arity ≤ es.length ∧ Covered es

/-- A byte encoding of MessagePack elements.  `encode` fails on a call that has no encoding
(a count or a block that does not fit its length field), `decode` at the end of the buffer
and on a byte that starts no element. -/
structure WireFormat where
  encode : WriteOp → Option (List UInt8)
  decode : List UInt8 → Option (Element × List UInt8)
  /-- What has been written is read back. -/
  decode_encode : ∀ {w b}, encode w = some b → decode b = some (w.toElement, [])
  /-- Reading an element does not depend on the bytes that follow it. -/
  decode_append : ∀ {b e r} (s), decode b = some (e, r) → decode (b ++ s) = some (e, r ++ s)
  /-- Every element takes at least one byte. -/
  decode_length_lt : ∀ {b e r}, decode b = some (e, r) → r.length < b.length

namespace WireFormat

variable (F : WireFormat)

/-- The bytes of a sequence of writer calls. -/
def encodeAll : List WriteOp → Option (List UInt8)
  | [] => some []
  | w :: ws => do
    let b ← F.encode w
    let bs ← encodeAll ws
    return b ++ bs

/-- The elements that can be read from a buffer in at most `n` reads.  A reader refuses a header
that declares more parts than there are bytes left, since every part takes at least one. -/
def scan : ℕ → List UInt8 → List Element
  | 0, _ => []
  | n + 1, b =>
    match F.decode b with
    | none => []
    | some (e, r) => if e.arity ≤ r.length then e :: scan n r else []

/-- The elements that can be read from a buffer. -/
def elements (b : List UInt8) : List Element := F.scan b.length b

/-- More reads than the buffer has bytes find no further element. -/
lemma scan_eq_elements {n : ℕ} {b : List UInt8} (h : b.length ≤ n) :
    F.scan n b = F.elements b := by
  have key : ∀ k n : ℕ, ∀ b : List UInt8, b.length ≤ k → b.length ≤ n →
      F.scan n b = F.scan k b := by
    intro k
    induction k with
    | zero =>
      intro n b hk _
      cases n with
      | zero => rfl
      | succ n =>
        cases hd : F.decode b with
        | none => simp [scan, hd]
        | some p => have := F.decode_length_lt (e := p.1) (r := p.2) hd; omega
    | succ k ih =>
      intro n b hk hn
      cases hd : F.decode b with
      | none => cases n <;> simp [scan, hd]
      | some p =>
        have hlt := F.decode_length_lt (e := p.1) (r := p.2) hd
        cases n with
        | zero => omega
        | succ n => simp [scan, hd, ih n p.2 (by omega) (by omega)]
  exact key b.length n b (Nat.le_refl _) h

/-- The elements of a buffer that starts with an element. -/
lemma elements_of_decode {b r : List UInt8} {e : Element} (h : F.decode b = some (e, r)) :
    F.elements b = if e.arity ≤ r.length then e :: F.elements r else [] := by
  have hlt := F.decode_length_lt h
  obtain ⟨n, hn⟩ : ∃ n, b.length = n + 1 := ⟨b.length - 1, by omega⟩
  rw [elements, hn]
  simp only [scan, h]
  rw [F.scan_eq_elements (by omega)]

/-- A buffer that starts no element has none. -/
lemma elements_of_decode_eq_none {b : List UInt8} (h : F.decode b = none) :
    F.elements b = [] := by
  unfold elements
  cases b.length <;> simp [scan, h]

/-- A written element is the first one read, if there are bytes for the parts it declares. -/
lemma elements_encode_append {w : WriteOp} {b : List UInt8} (h : F.encode w = some b)
    (s : List UInt8) : F.elements (b ++ s) =
      if w.toElement.arity ≤ s.length then w.toElement :: F.elements s else [] :=
  F.elements_of_decode (by simpa using F.decode_append s (F.decode_encode h))

lemma encodeAll_cons_eq_some {w : WriteOp} {ws : List WriteOp} {b : List UInt8} :
    F.encodeAll (w :: ws) = some b ↔
      ∃ b₁, F.encode w = some b₁ ∧ ∃ b₂, F.encodeAll ws = some b₂ ∧ b₁ ++ b₂ = b := by
  simp [encodeAll, Option.bind_eq_some_iff]

/-- Every call writes at least one byte. -/
lemma length_encodeAll_le {ws : List WriteOp} {b : List UInt8} (h : F.encodeAll ws = some b) :
    ws.length ≤ b.length := by
  induction ws generalizing b with
  | nil => exact Nat.zero_le _
  | cons w ws ih =>
    obtain ⟨b₁, hw, b₂, hws, rfl⟩ := F.encodeAll_cons_eq_some.mp h
    have hlt := F.decode_length_lt (F.decode_encode hw)
    have hle := ih hws
    rw [List.length_nil] at hlt
    rw [List.length_cons, List.length_append]
    omega

/-- The elements that were written are read back in order, whatever follows them, if the parts that
they declare were written as well. -/
theorem elements_encodeAll_append {ws : List WriteOp} {b : List UInt8} (hc : Covered (written ws))
    (h : F.encodeAll ws = some b) (s : List UInt8) :
    F.elements (b ++ s) = written ws ++ F.elements s := by
  induction ws generalizing b with
  | nil =>
    obtain rfl : [] = b := by simpa [encodeAll] using h
    simp
  | cons w ws ih =>
    obtain ⟨b₁, hw, b₂, hws, rfl⟩ := F.encodeAll_cons_eq_some.mp h
    obtain ⟨harity, hc⟩ := hc
    have hbytes : w.toElement.arity ≤ (b₂ ++ s).length := by
      have hle := F.length_encodeAll_le hws
      rw [← written, length_written] at harity
      rw [List.length_append]
      omega
    rw [List.append_assoc, F.elements_encode_append hw, if_pos hbytes, ih hc hws, written_cons,
      List.cons_append]

/-- The elements of a written buffer are those that were written. -/
theorem elements_encodeAll {ws : List WriteOp} {b : List UInt8} (hc : Covered (written ws))
    (h : F.encodeAll ws = some b) : F.elements b = written ws := by
  have hnil : F.decode [] = none := by
    cases hd : F.decode [] with
    | none => rfl
    | some p => exact absurd (F.decode_length_lt (e := p.1) (r := p.2) hd) (by simp)
  simpa [F.elements_of_decode_eq_none hnil] using F.elements_encodeAll_append hc h []

/-- A strict prefix of the encoding of an element starts no element. -/
lemma decode_eq_none_of_prefix {w : WriteOp} {b cut : List UInt8}
    (h : F.encode w = some (b ++ cut)) (hcut : cut ≠ []) : F.decode b = none := by
  cases hd : F.decode b with
  | none => rfl
  | some p =>
    have happend := F.decode_append (e := p.1) (r := p.2) cut hd
    rw [F.decode_encode h] at happend
    have hnil : p.2 ++ cut = [] := (Prod.mk.inj (Option.some.inj happend)).2.symm
    exact absurd (List.append_eq_nil_iff.mp hnil).2 hcut

/-- A written buffer that is cut off anywhere has only the first of the elements that were
written, and not all of them. -/
theorem elements_prefix {ws : List WriteOp} {b cut : List UInt8}
    (h : F.encodeAll ws = some (b ++ cut)) (hcut : cut ≠ []) :
    ∃ lost, lost ≠ [] ∧ F.elements b ++ lost = written ws := by
  induction ws generalizing b with
  | nil =>
    have hnil : b ++ cut = [] := (Option.some.inj h).symm
    exact absurd (List.append_eq_nil_iff.mp hnil).2 hcut
  | cons w ws ih =>
    obtain ⟨b₁, hw, b₂, hws, heq⟩ := F.encodeAll_cons_eq_some.mp h
    -- the cut is after the first element, or inside it
    have hcases : (∃ b', b = b₁ ++ b' ∧ b' ++ cut = b₂) ∨ ∃ cut', cut' ≠ [] ∧ b ++ cut' = b₁ := by
      rcases List.append_eq_append_iff.mp heq with ⟨b', rfl, rfl⟩ | ⟨cut', rfl, rfl⟩
      · exact .inl ⟨b', rfl, rfl⟩
      · by_cases hcut' : cut' = []
        · exact .inl ⟨[], by rw [hcut', List.append_nil, List.append_nil], by simp [hcut']⟩
        · exact .inr ⟨cut', hcut', rfl⟩
    -- if the first element is not read, all of them are lost
    have hnone : ∀ b', F.elements b' = [] → ∃ lost, lost ≠ [] ∧
        F.elements b' ++ lost = written (w :: ws) := by
      intro b' hb'
      exact ⟨written (w :: ws), by simp, by rw [hb', List.nil_append]⟩
    rcases hcases with ⟨b', rfl, rfl⟩ | ⟨cut', hcut', rfl⟩
    · have hread := F.elements_encode_append hw b'
      split_ifs at hread
      · obtain ⟨lost, hlost, helements⟩ := ih hws
        refine ⟨lost, hlost, ?_⟩
        rw [hread, written_cons, List.cons_append, helements]
      · exact hnone _ hread
    · exact hnone _ (F.elements_of_decode_eq_none (F.decode_eq_none_of_prefix hw hcut'))

end WireFormat

end MsgPack
