import GdsSdk.MsgPack.Element

/-!
# Readers

A reader walks over the elements of a buffer.  `Reader α` is a program that consumes elements
from the front and returns an `α`, or stops with the exception the reading library raises.
The primitive reads are followed by `Reads`, the triple "reads exactly these elements and
returns this value, whatever comes after them", and its rules.

A reader skips values that it has no use for by counting how many complete values are still
to come (`skipFrom`).
-/

namespace MsgPack

/-- What can go wrong while an element is read or a value is built from what was read. -/
inductive ReadError where
  /-- A read past the last element of the buffer. -/
  | endOfStream
  /-- The next element does not have the requested type. -/
  | unexpectedType (found : ElementType)
  /-- An integer does not fit the requested width. -/
  | overflow (n : ℤ)
  /-- A key occurs twice in a dictionary. -/
  | duplicateKey
  /-- A null reference where a value is required. -/
  | argumentNull
  /-- A value has the wrong shape. -/
  | format (message : String)
  /-- An operation was requested that is not available. -/
  | invalidOperation (message : String)
  deriving DecidableEq

/-- A program that reads elements from the front of a buffer. -/
abbrev Reader (α : Type) := StateT (List Element) (Except ReadError) α

namespace Reader

/-- Consume the next element. -/
def next : Reader Element := fun es =>
  match es with
  | [] => .error .endOfStream
  | e :: es => .ok (e, es)

/-- Look at the next element without consuming it. -/
def peek : Reader Element := fun es =>
  match es with
  | [] => .error .endOfStream
  | e :: es => .ok (e, e :: es)

/-- The type of the next element. -/
def nextType : Reader ElementType := do return (← peek).type

/-- Whether the next element is nil. -/
def isNil : Reader Bool := do return decide ((← nextType) = .nil)

def readNil : Reader Unit := do
  match ← next with
  | .nil => return ()
  | e => throw (.unexpectedType e.type)

def readBoolean : Reader Bool := do
  match ← next with
  | .boolean b => return b
  | e => throw (.unexpectedType e.type)

/-- An integer of any width. -/
def readInteger : Reader ℤ := do
  match ← next with
  | .integer n => return n
  | e => throw (.unexpectedType e.type)

def readInt32 : Reader Int32 := do
  let n ← readInteger
  if -2 ^ 31 ≤ n ∧ n < 2 ^ 31 then return Int32.ofInt n else throw (.overflow n)

def readInt64 : Reader Int64 := do
  let n ← readInteger
  if -2 ^ 63 ≤ n ∧ n < 2 ^ 63 then return Int64.ofInt n else throw (.overflow n)

/-- A string, or nil for the null string. -/
def readString : Reader (Option String) := do
  match ← next with
  | .nil => return none
  | .string s => return some s
  | e => throw (.unexpectedType e.type)

/-- A binary block, or nil for the null array. -/
def readBytes : Reader (Option (List UInt8)) := do
  match ← next with
  | .nil => return none
  | .binary data => return some data
  | e => throw (.unexpectedType e.type)

def readArrayHeader : Reader ℕ := do
  match ← next with
  | .arrayHeader n => return n
  | e => throw (.unexpectedType e.type)

def readMapHeader : Reader ℕ := do
  match ← next with
  | .mapHeader n => return n
  | e => throw (.unexpectedType e.type)

/-- Nil for an absent value, and otherwise the value itself. -/
def orNil {α : Type} (r : Reader α) : Reader (Option α) := do
  if ← isNil then
    readNil
    return none
  else
    some <$> r

/-- Run a reader a given number of times. -/
def replicate {α : Type} (r : Reader α) : ℕ → Reader (List α)
  | 0 => return []
  | n + 1 => do
    let a ← r
    let as ← replicate r n
    return a :: as

end Reader

/-- Skip `n` complete values: an element with parts adds their number to what is still to be
skipped. -/
def skipFrom : ℕ → List Element → Except ReadError (List Element)
  | 0, es => .ok es
  | _ + 1, [] => .error .endOfStream
  | n + 1, e :: es => skipFrom (n + e.arity) es

/-- Skip `n` complete values. -/
def Reader.skip (n : ℕ) : Reader Unit := fun es => do return ((), ← skipFrom n es)

/-! ## The triple of a reader -/

/-- `Reads r es a`: reader `r` consumes exactly `es` and returns `a`, whatever follows. -/
def Reads {α : Type} (r : Reader α) (es : List Element) (a : α) : Prop :=
  ∀ rest, r.run (es ++ rest) = .ok (a, rest)

namespace Reads

variable {α β : Type} {r : Reader α} {k : α → Reader β} {es es' : List Element} {a : α} {b : β}

lemma pure (a : α) : Reads (Pure.pure a) [] a := fun _ => rfl

/-- Sequencing: the second reader continues where the first one stopped. -/
lemma bind (hr : Reads r es a) (hk : Reads (k a) es' b) :
    Reads (r >>= k) (es ++ es') b := by
  intro rest
  rw [StateT.run_bind, List.append_assoc, hr]
  exact hk rest

/-- Sequencing after a read of a single element. -/
lemma bind_cons {e : Element} (hr : Reads r [e] a) (hk : Reads (k a) es b) :
    Reads (r >>= k) (e :: es) b := hr.bind hk

lemma map (f : α → β) (hr : Reads r es a) : Reads (f <$> r) es (f a) := by
  intro rest
  rw [StateT.run_map, hr]
  rfl

lemma next (e : Element) : Reads Reader.next [e] e := fun _ => rfl

lemma readNil : Reads Reader.readNil [.nil] () := fun _ => rfl

lemma readBoolean (b : Bool) : Reads Reader.readBoolean [.boolean b] b := fun _ => rfl

lemma readInteger (n : ℤ) : Reads Reader.readInteger [.integer n] n := fun _ => rfl

/-- A 32-bit integer survives its own encoding. -/
lemma readInt32 (n : Int32) : Reads Reader.readInt32 [.integer n.toInt] n := by
  have hlo := n.le_toInt
  have hhi := n.toInt_lt
  refine bind_cons (readInteger _) ?_
  rw [if_pos ⟨hlo, hhi⟩, Int32.ofInt_toInt]
  exact pure n

/-- A 64-bit integer survives its own encoding. -/
lemma readInt64 (n : Int64) : Reads Reader.readInt64 [.integer n.toInt] n := by
  have hlo := n.le_toInt
  have hhi := n.toInt_lt
  refine bind_cons (readInteger _) ?_
  rw [if_pos ⟨hlo, hhi⟩, Int64.ofInt_toInt]
  exact pure n

/-- A string or the null string survives its own encoding. -/
lemma readString (s : Option String) : Reads Reader.readString [(WriteOp.string s).toElement] s :=
  match s with
  | none => fun _ => rfl
  | some _ => fun _ => rfl

/-- A block or the null array survives its own encoding. -/
lemma readBytes (data : Option (List UInt8)) :
    Reads Reader.readBytes [(WriteOp.binary data).toElement] data :=
  match data with
  | none => fun _ => rfl
  | some _ => fun _ => rfl

lemma readArrayHeader (n : ℕ) : Reads Reader.readArrayHeader [.arrayHeader n] n := fun _ => rfl

lemma readMapHeader (n : ℕ) : Reads Reader.readMapHeader [.mapHeader n] n := fun _ => rfl

/-- Peeking at the type of the next element consumes nothing. -/
lemma nextType {e : Element} {k : ElementType → Reader β} (hk : Reads (k e.type) (e :: es) b) :
    Reads (Reader.nextType >>= k) (e :: es) b := fun rest => hk rest

/-- Testing the next element for nil consumes nothing. -/
lemma isNil {e : Element} {k : Bool → Reader β}
    (hk : Reads (k (decide (e.type = .nil))) (e :: es) b) :
    Reads (Reader.isNil >>= k) (e :: es) b := fun rest => hk rest

lemma orNil_nil : Reads (Reader.orNil r) [.nil] none := fun _ => rfl

lemma orNil_some {e : Element} (he : e ≠ .nil) (hr : Reads r (e :: es) a) :
    Reads (Reader.orNil r) (e :: es) (some a) := by
  refine isNil ?_
  simpa [Element.type_eq_nil, he] using hr.map some

/-- Reading zero further values to skip reads nothing. -/
lemma skip_zero : Reads (Reader.skip 0) [] () := by
  intro rest
  simp [Reader.skip, skipFrom, StateT.run]

lemma replicate_zero : Reads (Reader.replicate r 0) [] [] := fun _ => rfl

lemma replicate_succ {n : ℕ} {as : List α} (hr : Reads r es a)
    (hrs : Reads (Reader.replicate r n) es' as) :
    Reads (Reader.replicate r (n + 1)) (es ++ es') (a :: as) :=
  hr.bind (hrs.map (a :: ·))

end Reads

/-! ## Failing reads -/

/-- `Throws r es e`: reader `r` stops with the exception `e` on every input that starts with
`es`. -/
def Throws {α : Type} (r : Reader α) (es : List Element) (e : ReadError) : Prop :=
  ∀ rest, r.run (es ++ rest) = .error e

namespace Throws

variable {α β : Type} {r : Reader α} {k : α → Reader β} {es es' : List Element} {a : α}
  {e : ReadError}

lemma throw (e : ReadError) : Throws (MonadExcept.throw e : Reader α) [] e := fun _ => rfl

/-- A sequence fails where its second reader does. -/
lemma bind (hr : Reads r es a) (hk : Throws (k a) es' e) : Throws (r >>= k) (es ++ es') e := by
  intro rest
  rw [StateT.run_bind, List.append_assoc, hr]
  exact hk rest

/-- A sequence whose first reader reads a single element fails where its second reader does. -/
lemma bind_cons {x : Element} (hr : Reads r [x] a) (hk : Throws (k a) es e) :
    Throws (r >>= k) (x :: es) e := bind hr hk

/-- A reader that fails on an input does not read it. -/
lemma not_reads (h : Throws r es e) (rest : List Element) (p : α × List Element) :
    r.run (es ++ rest) ≠ .ok p := by
  rw [h rest]
  exact fun hok => by cases hok

end Throws

end MsgPack
