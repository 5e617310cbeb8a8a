import GdsSdk.MsgPack.Element
import Mathlib.Tactic

/-!
# The standard byte encoding

The wire format of the MessagePack specification.  Every element starts with a byte that fixes
its `Layout`: the width of the field that follows (a number, or the length of a block), how long
the block after it is, and which element they make up.  Integers, lengths and counts are written
in the shortest form that holds them, except by the calls that ask for a fixed width.
-/

namespace MsgPack

namespace Standard

/-! ## Big-endian numbers -/

/-- The `k` low bytes of a number, most significant first. -/
def toBytes : ℕ → ℕ → List UInt8
  | 0, _ => []
  | k + 1, n => toBytes k (n / 256) ++ [UInt8.ofNat n]

/-- The number that the bytes denote, most significant first. -/
def ofBytes (b : List UInt8) : ℕ := b.foldl (fun n x => 256 * n + x.toNat) 0

@[simp] lemma length_toBytes (k n : ℕ) : (toBytes k n).length = k := by
  induction k generalizing n with
  | zero => rfl
  | succ k ih => simp [toBytes, ih]

/-- A number that fits its width is recovered from its bytes. -/
lemma ofBytes_toBytes {k n : ℕ} (h : n < 256 ^ k) : ofBytes (toBytes k n) = n := by
  induction k generalizing n with
  | zero =>
    obtain rfl : n = 0 := by simpa using h
    rfl
  | succ k ih =>
    have hdiv : n / 256 < 256 ^ k := by
      rw [Nat.div_lt_iff_lt_mul (by decide), ← pow_succ]
      exact h
    have hrec := ih hdiv
    simp only [ofBytes] at hrec
    simp only [ofBytes, toBytes, List.foldl_append, hrec, List.foldl_cons, List.foldl_nil,
      UInt8.toNat_ofNat']
    omega

/-- The number that `k` bytes denote in two's complement. -/
def ofBytesSigned (k : ℕ) (b : List UInt8) : ℤ :=
  if ofBytes b < 2 ^ (8 * k - 1) then ofBytes b else (ofBytes b : ℤ) - 2 ^ (8 * k)

/-- The `k` bytes of an integer in two's complement. -/
def toBytesSigned (k : ℕ) (n : ℤ) : List UInt8 := toBytes k (n % 2 ^ (8 * k)).toNat

@[simp] lemma length_toBytesSigned (k : ℕ) (n : ℤ) : (toBytesSigned k n).length = k :=
  length_toBytes _ _

/-- An integer that fits its width is recovered from its bytes. -/
lemma ofBytesSigned_toBytesSigned {k : ℕ} {n : ℤ} (hk : 0 < k) (hlo : -2 ^ (8 * k - 1) ≤ n)
    (hhi : n < 2 ^ (8 * k - 1)) : ofBytesSigned k (toBytesSigned k n) = n := by
  have hpow : (2 : ℤ) ^ (8 * k) = 2 * 2 ^ (8 * k - 1) := by
    rw [← pow_succ']
    congr 1
    omega
  have hpos : (0 : ℤ) < 2 ^ (8 * k - 1) := by positivity
  have hmod : 0 ≤ n % 2 ^ (8 * k) ∧ n % 2 ^ (8 * k) < 2 ^ (8 * k) :=
    ⟨Int.emod_nonneg _ (by positivity), Int.emod_lt_of_pos _ (by positivity)⟩
  have hcast : (((n % 2 ^ (8 * k)).toNat : ℕ) : ℤ) = n % 2 ^ (8 * k) := Int.toNat_of_nonneg hmod.1
  have hfit : (n % 2 ^ (8 * k)).toNat < 256 ^ k := by
    have h256 : (256 : ℕ) ^ k = 2 ^ (8 * k) := by rw [pow_mul]; norm_num
    rw [h256]
    zify
    rw [hcast]
    exact hmod.2
  rw [ofBytesSigned, toBytesSigned, ofBytes_toBytes hfit, hcast]
  have hlt : (n % 2 ^ (8 * k)).toNat < 2 ^ (8 * k - 1) ↔ n % 2 ^ (8 * k) < 2 ^ (8 * k - 1) := by
    zify
    rw [hcast]
  simp only [hlt]
  rcases lt_or_ge n 0 with hneg | hnonneg
  · have hres : n % 2 ^ (8 * k) = n + 2 ^ (8 * k) := by
      rw [← Int.add_emod_right, Int.emod_eq_of_lt] <;> linarith
    rw [hres, if_neg (by linarith)]
    ring
  · rw [Int.emod_eq_of_lt hnonneg (by linarith), if_pos hhi]

/-! ## Decoding -/

/-- What follows the first byte of an element: a field of `width` bytes, a block whose length
the field determines, and the element that the two make up. -/
structure Layout where
  width : ℕ
  length : List UInt8 → ℕ
  build : List UInt8 → List UInt8 → Option Element

namespace Layout

/-- The first byte is the whole element. -/
def single (e : Element) : Layout := ⟨0, fun _ => 0, fun _ _ => some e⟩

/-- A field of `k` bytes and no block. -/
def field (k : ℕ) (build : List UInt8 → Element) : Layout :=
  ⟨k, fun _ => 0, fun b _ => some (build b)⟩

/-- A block of `n` bytes without a length field. -/
def block (n : ℕ) (build : List UInt8 → Option Element) : Layout :=
  ⟨0, fun _ => n, fun _ => build⟩

/-- A block after its length in `k` bytes. -/
def sized (k : ℕ) (build : List UInt8 → Option Element) : Layout :=
  ⟨k, ofBytes, fun _ => build⟩

/-- An extension of `n` bytes after its type code. -/
def fixedExtension (n : ℕ) : Layout :=
  ⟨1, fun _ => n, fun b data => some (.extension (Int8.ofInt (ofBytesSigned 1 b)) data)⟩

/-- An extension after its length in `k` bytes and its type code. -/
def sizedExtension (k : ℕ) : Layout :=
  ⟨k + 1, fun b => ofBytes (b.take k),
    fun b data => some (.extension (Int8.ofInt (ofBytesSigned 1 (b.drop k))) data)⟩

end Layout

/-- The string with the given UTF-8 bytes. -/
def buildString (b : List UInt8) : Option Element :=
  (String.fromUTF8? b.toByteArray).map .string

def buildBinary (b : List UInt8) : Option Element := some (.binary b)

/-- The layout of the elements that start with a byte. -/
def layout (c : UInt8) : Option Layout :=
  let n := c.toNat
  if n < 0x80 then some (.single (.integer n))
  else if n < 0x90 then some (.single (.mapHeader (n - 0x80)))
  else if n < 0xa0 then some (.single (.arrayHeader (n - 0x90)))
  else if n < 0xc0 then some (.block (n - 0xa0) buildString)
  else if 0xe0 ≤ n then some (.single (.integer (n - 256)))
  else
    match n with
    | 0xc0 => some (.single .nil)
    | 0xc2 => some (.single (.boolean false))
    | 0xc3 => some (.single (.boolean true))
    | 0xc4 => some (.sized 1 buildBinary)
    | 0xc5 => some (.sized 2 buildBinary)
    | 0xc6 => some (.sized 4 buildBinary)
    | 0xc7 => some (.sizedExtension 1)
    | 0xc8 => some (.sizedExtension 2)
    | 0xc9 => some (.sizedExtension 4)
    | 0xca => some (.field 4 fun b => .float32 (UInt32.ofNat (ofBytes b)))
    | 0xcb => some (.field 8 fun b => .float64 (UInt64.ofNat (ofBytes b)))
    | 0xcc => some (.field 1 fun b => .integer (ofBytes b))
    | 0xcd => some (.field 2 fun b => .integer (ofBytes b))
    | 0xce => some (.field 4 fun b => .integer (ofBytes b))
    | 0xcf => some (.field 8 fun b => .integer (ofBytes b))
    | 0xd0 => some (.field 1 fun b => .integer (ofBytesSigned 1 b))
    | 0xd1 => some (.field 2 fun b => .integer (ofBytesSigned 2 b))
    | 0xd2 => some (.field 4 fun b => .integer (ofBytesSigned 4 b))
    | 0xd3 => some (.field 8 fun b => .integer (ofBytesSigned 8 b))
    | 0xd4 => some (.fixedExtension 1)
    | 0xd5 => some (.fixedExtension 2)
    | 0xd6 => some (.fixedExtension 4)
    | 0xd7 => some (.fixedExtension 8)
    | 0xd8 => some (.fixedExtension 16)
    | 0xd9 => some (.sized 1 buildString)
    | 0xda => some (.sized 2 buildString)
    | 0xdb => some (.sized 4 buildString)
    | 0xdc => some (.field 2 fun b => .arrayHeader (ofBytes b))
    | 0xdd => some (.field 4 fun b => .arrayHeader (ofBytes b))
    | 0xde => some (.field 2 fun b => .mapHeader (ofBytes b))
    | 0xdf => some (.field 4 fun b => .mapHeader (ofBytes b))
    | _ => none

/-- Split off the first `n` bytes, if there are so many. -/
def split (n : ℕ) (b : List UInt8) : Option (List UInt8 × List UInt8) :=
  if n ≤ b.length then some (b.take n, b.drop n) else none

/-- Read one element and return the bytes after it. -/
def decode : List UInt8 → Option (Element × List UInt8)
  | [] => none
  | c :: b => do
    let l ← layout c
    let (fieldBytes, b) ← split l.width b
    let (blockBytes, b) ← split (l.length fieldBytes) b
    let e ← l.build fieldBytes blockBytes
    return (e, b)

lemma split_append {n : ℕ} {b x y : List UInt8} (h : split n b = some (x, y))
    (s : List UInt8) : split n (b ++ s) = some (x, y ++ s) := by
  unfold split at h ⊢
  split_ifs at h with hn
  cases h
  have hns : n ≤ (b ++ s).length := by rw [List.length_append]; omega
  rw [if_pos hns, List.take_append_of_le_length hn, List.drop_append_of_le_length hn]

lemma split_length_le {n : ℕ} {b x y : List UInt8} (h : split n b = some (x, y)) :
    y.length ≤ b.length := by
  unfold split at h
  split_ifs at h
  cases h
  rw [List.length_drop]
  omega

lemma split_length_append (x y : List UInt8) : split x.length (x ++ y) = some (x, y) := by
  simp [split]

/-- A successful read, taken apart. -/
lemma decode_cons_eq_some {c : UInt8} {b r : List UInt8} {e : Element} :
    decode (c :: b) = some (e, r) ↔ ∃ l x y z, layout c = some l ∧ split l.width b = some (x, y) ∧
      split (l.length x) y = some (z, r) ∧ l.build x z = some e := by
  simp only [decode, Option.bind_eq_bind, Option.bind_eq_some_iff, Prod.exists, Option.pure_def,
    Option.some.injEq, Prod.mk.injEq]
  constructor
  · rintro ⟨l, hl, x, y, hx, z, r', hz, e', he, rfl, rfl⟩
    exact ⟨l, x, y, z, hl, hx, hz, he⟩
  · rintro ⟨l, x, y, z, hl, hx, hz, he⟩
    exact ⟨l, hl, x, y, hx, z, r, hz, e, he, rfl, rfl⟩

lemma decode_append {b r : List UInt8} {e : Element} (s : List UInt8)
    (h : decode b = some (e, r)) : decode (b ++ s) = some (e, r ++ s) := by
  cases b with
  | nil => simp [decode] at h
  | cons c b =>
    obtain ⟨l, x, y, z, hl, hx, hz, he⟩ := decode_cons_eq_some.mp h
    exact decode_cons_eq_some.mpr ⟨l, x, y ++ s, z, hl, split_append hx s, split_append hz s, he⟩

lemma decode_length_lt {b r : List UInt8} {e : Element} (h : decode b = some (e, r)) :
    r.length < b.length := by
  cases b with
  | nil => simp [decode] at h
  | cons c b =>
    obtain ⟨l, x, y, z, -, hx, hz, -⟩ := decode_cons_eq_some.mp h
    have h₁ := split_length_le hx
    have h₂ := split_length_le hz
    rw [List.length_cons]
    omega

/-- An element that has been laid out as its first byte demands is read back. -/
lemma decode_layout {c : UInt8} {l : Layout} {x z : List UInt8} {e : Element}
    (hl : layout c = some l) (hx : x.length = l.width) (hz : z.length = l.length x)
    (he : l.build x z = some e) : decode (c :: (x ++ z)) = some (e, []) := by
  refine decode_cons_eq_some.mpr ⟨l, x, z, z, hl, ?_, ?_, he⟩
  · rw [← hx]
    exact split_length_append x z
  · rw [← hz]
    simpa using split_length_append z []

/-! ## Encoding -/

/-- A natural number in its shortest form. -/
def encodeNat (n : ℕ) : Option (List UInt8) :=
  if n < 0x80 then some [UInt8.ofNat n]
  else if n < 2 ^ 8 then some (0xcc :: toBytes 1 n)
  else if n < 2 ^ 16 then some (0xcd :: toBytes 2 n)
  else if n < 2 ^ 32 then some (0xce :: toBytes 4 n)
  else if n < 2 ^ 64 then some (0xcf :: toBytes 8 n)
  else none

/-- An integer in its shortest form. -/
def encodeInteger (n : ℤ) : Option (List UInt8) :=
  if 0 ≤ n then encodeNat n.toNat
  else if -32 ≤ n then some [UInt8.ofNat (n + 256).toNat]
  else if -2 ^ 7 ≤ n then some (0xd0 :: toBytesSigned 1 n)
  else if -2 ^ 15 ≤ n then some (0xd1 :: toBytesSigned 2 n)
  else if -2 ^ 31 ≤ n then some (0xd2 :: toBytesSigned 4 n)
  else if -2 ^ 63 ≤ n then some (0xd3 :: toBytesSigned 8 n)
  else none

/-- A string of the given UTF-8 bytes. -/
def encodeString (b : List UInt8) : Option (List UInt8) :=
  if b.length < 32 then some (UInt8.ofNat (0xa0 + b.length) :: b)
  else if b.length < 2 ^ 8 then some (0xd9 :: (toBytes 1 b.length ++ b))
  else if b.length < 2 ^ 16 then some (0xda :: (toBytes 2 b.length ++ b))
  else if b.length < 2 ^ 32 then some (0xdb :: (toBytes 4 b.length ++ b))
  else none

def encodeBinary (b : List UInt8) : Option (List UInt8) :=
  if b.length < 2 ^ 8 then some (0xc4 :: (toBytes 1 b.length ++ b))
  else if b.length < 2 ^ 16 then some (0xc5 :: (toBytes 2 b.length ++ b))
  else if b.length < 2 ^ 32 then some (0xc6 :: (toBytes 4 b.length ++ b))
  else none

def encodeArrayHeader (n : ℕ) : Option (List UInt8) :=
  if n < 16 then some [UInt8.ofNat (0x90 + n)]
  else if n < 2 ^ 16 then some (0xdc :: toBytes 2 n)
  else if n < 2 ^ 32 then some (0xdd :: toBytes 4 n)
  else none

def encodeMapHeader (n : ℕ) : Option (List UInt8) :=
  if n < 16 then some [UInt8.ofNat (0x80 + n)]
  else if n < 2 ^ 16 then some (0xde :: toBytes 2 n)
  else if n < 2 ^ 32 then some (0xdf :: toBytes 4 n)
  else none

def encodeExtension (t : Int8) (b : List UInt8) : Option (List UInt8) :=
  let code := toBytesSigned 1 t.toInt
  if b.length = 1 then some (0xd4 :: (code ++ b))
  else if b.length = 2 then some (0xd5 :: (code ++ b))
  else if b.length = 4 then some (0xd6 :: (code ++ b))
  else if b.length = 8 then some (0xd7 :: (code ++ b))
  else if b.length = 16 then some (0xd8 :: (code ++ b))
  else if b.length < 2 ^ 8 then some (0xc7 :: (toBytes 1 b.length ++ code ++ b))
  else if b.length < 2 ^ 16 then some (0xc8 :: (toBytes 2 b.length ++ code ++ b))
  else if b.length < 2 ^ 32 then some (0xc9 :: (toBytes 4 b.length ++ code ++ b))
  else none

/-- The UTF-8 bytes of a string. -/
def utf8Bytes (s : String) : List UInt8 := s.toByteArray.data.toList

def encodeElement : Element → Option (List UInt8)
  | .nil => some [0xc0]
  | .boolean false => some [0xc2]
  | .boolean true => some [0xc3]
  | .integer n => encodeInteger n
  | .float32 bits => some (0xca :: toBytes 4 bits.toNat)
  | .float64 bits => some (0xcb :: toBytes 8 bits.toNat)
  | .string s => encodeString (utf8Bytes s)
  | .binary b => encodeBinary b
  | .arrayHeader n => encodeArrayHeader n
  | .mapHeader n => encodeMapHeader n
  | .extension t b => encodeExtension t b

/-- The bytes of one writer call. -/
def encode : WriteOp → Option (List UInt8)
  | .element e => encodeElement e
  | .int32 n => some (0xd2 :: toBytesSigned 4 n.toInt)
  | .int64 n => some (0xd3 :: toBytesSigned 8 n.toInt)

/-! ## What is written is read back -/

/-- An element that is only its first byte. -/
lemma decode_single {c : UInt8} {e : Element} (hl : layout c = some (.single e)) :
    decode [c] = some (e, []) :=
  decode_layout (x := []) (z := []) hl rfl rfl rfl

/-- An element that is a field after its first byte. -/
lemma decode_field {c : UInt8} {k : ℕ} {build : List UInt8 → Element} {x : List UInt8}
    (hl : layout c = some (.field k build)) (hx : x.length = k) :
    decode (c :: x) = some (build x, []) := by
  simpa using decode_layout (z := []) hl hx rfl rfl

/-- An element that is a block after its length. -/
lemma decode_sized {c : UInt8} {k : ℕ} {build : List UInt8 → Option Element} {z : List UInt8}
    {e : Element} (hl : layout c = some (.sized k build)) (hz : z.length < 256 ^ k)
    (he : build z = some e) : decode (c :: (toBytes k z.length ++ z)) = some (e, []) :=
  decode_layout hl (length_toBytes _ _) (ofBytes_toBytes hz).symm he

lemma layout_ofNat_of_lt {n : ℕ} (h : n < 0x80) :
    layout (UInt8.ofNat n) = some (.single (.integer n)) := by
  have hn : (UInt8.ofNat n).toNat = n := by rw [UInt8.toNat_ofNat']; omega
  simp [layout, hn, h]

lemma decode_encodeNat {n : ℕ} {b : List UInt8} (h : encodeNat n = some b) :
    decode b = some (.integer n, []) := by
  unfold encodeNat at h
  split_ifs at h with h₁ h₂ h₃ h₄ h₅ <;> cases h
  · exact decode_single (layout_ofNat_of_lt h₁)
  · rw [decode_field (k := 1) rfl (length_toBytes _ _), ofBytes_toBytes (by omega)]
  · rw [decode_field (k := 2) rfl (length_toBytes _ _), ofBytes_toBytes (by omega)]
  · rw [decode_field (k := 4) rfl (length_toBytes _ _), ofBytes_toBytes (by omega)]
  · rw [decode_field (k := 8) rfl (length_toBytes _ _), ofBytes_toBytes (by omega)]

lemma decode_encodeInteger {n : ℤ} {b : List UInt8} (h : encodeInteger n = some b) :
    decode b = some (.integer n, []) := by
  unfold encodeInteger at h
  split_ifs at h with h₁ h₂ h₃ h₄ h₅ h₆ <;> try cases h
  · rw [decode_encodeNat h, Int.toNat_of_nonneg h₁]
  · have hn : (UInt8.ofNat (n + 256).toNat).toNat = (n + 256).toNat := by
      rw [UInt8.toNat_ofNat']
      omega
    have hcast : (((n + 256).toNat : ℕ) : ℤ) = n + 256 := Int.toNat_of_nonneg (by omega)
    refine decode_single ?_
    unfold layout
    rw [hn, if_neg (by omega), if_neg (by omega), if_neg (by omega), if_neg (by omega),
      if_pos (by omega), hcast, add_sub_cancel_right]
  · rw [decode_field (k := 1) rfl (length_toBytesSigned _ _),
      ofBytesSigned_toBytesSigned (by decide) (by omega) (by omega)]
  · rw [decode_field (k := 2) rfl (length_toBytesSigned _ _),
      ofBytesSigned_toBytesSigned (by decide) (by omega) (by omega)]
  · rw [decode_field (k := 4) rfl (length_toBytesSigned _ _),
      ofBytesSigned_toBytesSigned (by decide) (by omega) (by omega)]
  · rw [decode_field (k := 8) rfl (length_toBytesSigned _ _),
      ofBytesSigned_toBytesSigned (by decide) (by omega) (by omega)]

lemma fromUTF8_utf8Bytes (s : String) : String.fromUTF8? (utf8Bytes s).toByteArray = some s := by
  have h : (utf8Bytes s).toByteArray = s.toByteArray :=
    ByteArray.ext (by rw [List.data_toByteArray]; rfl)
  rw [h, String.fromUTF8?, dif_pos s.isValidUTF8]
  rfl

lemma decode_encodeString {s : String} {b : List UInt8}
    (h : encodeString (utf8Bytes s) = some b) : decode b = some (.string s, []) := by
  have hbuild : buildString (utf8Bytes s) = some (.string s) := by
    rw [buildString, fromUTF8_utf8Bytes, Option.map_some]
  unfold encodeString at h
  split_ifs at h with h₁ h₂ h₃ h₄ <;> cases h
  · have hn : (UInt8.ofNat (0xa0 + (utf8Bytes s).length)).toNat = 0xa0 + (utf8Bytes s).length := by
      rw [UInt8.toNat_ofNat']
      omega
    refine decode_layout (l := .block (utf8Bytes s).length buildString) (x := []) ?_ rfl rfl hbuild
    unfold layout
    rw [hn, if_neg (by omega), if_neg (by omega), if_neg (by omega), if_pos (by omega),
      Nat.add_sub_cancel_left]
  · exact decode_sized rfl (by omega) hbuild
  · exact decode_sized rfl (by omega) hbuild
  · exact decode_sized rfl (by omega) hbuild

lemma decode_encodeBinary {data b : List UInt8} (h : encodeBinary data = some b) :
    decode b = some (.binary data, []) := by
  unfold encodeBinary at h
  split_ifs at h <;> cases h
  all_goals exact decode_sized rfl (by omega) rfl

lemma decode_encodeArrayHeader {n : ℕ} {b : List UInt8} (h : encodeArrayHeader n = some b) :
    decode b = some (.arrayHeader n, []) := by
  unfold encodeArrayHeader at h
  split_ifs at h with h₁ h₂ h₃ <;> cases h
  · have hn : (UInt8.ofNat (0x90 + n)).toNat = 0x90 + n := by rw [UInt8.toNat_ofNat']; omega
    refine decode_single ?_
    unfold layout
    rw [hn, if_neg (by omega), if_neg (by omega), if_pos (by omega), Nat.add_sub_cancel_left]
  · rw [decode_field (k := 2) rfl (length_toBytes _ _), ofBytes_toBytes (by omega)]
  · rw [decode_field (k := 4) rfl (length_toBytes _ _), ofBytes_toBytes (by omega)]

lemma decode_encodeMapHeader {n : ℕ} {b : List UInt8} (h : encodeMapHeader n = some b) :
    decode b = some (.mapHeader n, []) := by
  unfold encodeMapHeader at h
  split_ifs at h with h₁ h₂ h₃ <;> cases h
  · have hn : (UInt8.ofNat (0x80 + n)).toNat = 0x80 + n := by rw [UInt8.toNat_ofNat']; omega
    refine decode_single ?_
    unfold layout
    rw [hn, if_neg (by omega), if_pos (by omega), Nat.add_sub_cancel_left]
  · rw [decode_field (k := 2) rfl (length_toBytes _ _), ofBytes_toBytes (by omega)]
  · rw [decode_field (k := 4) rfl (length_toBytes _ _), ofBytes_toBytes (by omega)]

/-- A type code is recovered from its byte. -/
lemma ofInt_typeCode (t : Int8) : Int8.ofInt (ofBytesSigned 1 (toBytesSigned 1 t.toInt)) = t := by
  rw [ofBytesSigned_toBytesSigned (by decide) t.le_toInt t.toInt_lt, Int8.ofInt_toInt]

lemma decode_fixedExtension {c : UInt8} {k : ℕ} {t : Int8} {data : List UInt8}
    (hl : layout c = some (.fixedExtension k)) (hk : data.length = k) :
    decode (c :: (toBytesSigned 1 t.toInt ++ data)) = some (.extension t data, []) :=
  decode_layout hl (length_toBytesSigned _ _) hk
    (by simp only [Layout.fixedExtension, ofInt_typeCode])

lemma decode_sizedExtension {c : UInt8} {k : ℕ} {t : Int8} {data : List UInt8}
    (hl : layout c = some (.sizedExtension k)) (hk : data.length < 256 ^ k) :
    decode (c :: (toBytes k data.length ++ toBytesSigned 1 t.toInt ++ data)) =
      some (.extension t data, []) := by
  have htake : (toBytes k data.length ++ toBytesSigned 1 t.toInt).take k =
      toBytes k data.length := by
    rw [List.take_left' (length_toBytes _ _)]
  have hdrop : (toBytes k data.length ++ toBytesSigned 1 t.toInt).drop k =
      toBytesSigned 1 t.toInt := by
    rw [List.drop_left' (length_toBytes _ _)]
  refine decode_layout hl ?_ ?_ ?_
  · simp [Layout.sizedExtension]
  · simp only [Layout.sizedExtension, htake, ofBytes_toBytes hk]
  · simp only [Layout.sizedExtension, hdrop, ofInt_typeCode]

lemma decode_encodeExtension {t : Int8} {data b : List UInt8}
    (h : encodeExtension t data = some b) : decode b = some (.extension t data, []) := by
  unfold encodeExtension at h
  simp only at h
  split_ifs at h with h₁ h₂ h₃ h₄ h₅ h₆ h₇ h₈ <;> cases h
  · exact decode_fixedExtension rfl h₁
  · exact decode_fixedExtension rfl h₂
  · exact decode_fixedExtension rfl h₃
  · exact decode_fixedExtension rfl h₄
  · exact decode_fixedExtension rfl h₅
  · exact decode_sizedExtension rfl (by omega)
  · exact decode_sizedExtension rfl (by omega)
  · exact decode_sizedExtension rfl (by omega)

/-- Whatever has been written is read back. -/
theorem decode_encode {w : WriteOp} {b : List UInt8} (h : encode w = some b) :
    decode b = some (w.toElement, []) := by
  cases w with
  | int32 n =>
    cases h
    rw [decode_field (k := 4) rfl (length_toBytesSigned _ _),
      ofBytesSigned_toBytesSigned (by decide) n.le_toInt n.toInt_lt, WriteOp.toElement]
  | int64 n =>
    cases h
    rw [decode_field (k := 8) rfl (length_toBytesSigned _ _),
      ofBytesSigned_toBytesSigned (by decide) n.le_toInt n.toInt_lt, WriteOp.toElement]
  | element e =>
    cases e with
    | nil =>
      cases h
      exact decode_single rfl
    | boolean v =>
      cases v <;> cases h <;> exact decode_single rfl
    | integer n => exact decode_encodeInteger h
    | float32 bits =>
      cases h
      rw [decode_field (k := 4) rfl (length_toBytes _ _), ofBytes_toBytes bits.toNat_lt,
        UInt32.ofNat_toNat, WriteOp.toElement]
    | float64 bits =>
      cases h
      rw [decode_field (k := 8) rfl (length_toBytes _ _), ofBytes_toBytes bits.toNat_lt,
        UInt64.ofNat_toNat, WriteOp.toElement]
    | string s => exact decode_encodeString h
    | binary data => exact decode_encodeBinary h
    | arrayHeader n => exact decode_encodeArrayHeader h
    | mapHeader n => exact decode_encodeMapHeader h
    | extension t data => exact decode_encodeExtension h

end Standard

/-- The byte encoding of the MessagePack specification. -/
def standard : WireFormat where
  encode := Standard.encode
  decode := Standard.decode
  decode_encode := Standard.decode_encode
  decode_append := Standard.decode_append
  decode_length_lt := Standard.decode_length_lt

end MsgPack
