import GdsSdk.MsgPack.Formatter
import GdsSdk.Statement.Lexer
import Mathlib.Algebra.GroupWithZero.Nat

/-!
# The statement that inserts the sample event

The listener of the demo program builds a statement out of values: identifiers, which are written as
they are, and a description, which is escaped.  It is sent as a text, so that it is up to the
service to find the values in it.  `SqlBuilder.insert_read` says when it finds those that were put
in, for a service that knows backslash escapes as well as for one that does not, which reads a
backslash of the description as two; and `ListenerImpl.sampleEvent_read` follows it to the statement
and the attachments of the sample event.
-/

namespace Gds

open MsgPack Statement

/-- The exceptions of the helpers. -/
inductive HelperException where
  | argumentNull (paramName : String)
  | argument (message : String)
  | fileNotFound (message : String)
  deriving DecidableEq

/-- The check of an argument that must not be null. -/
def argument {α : Type} (value : Option α) (paramName : String) : Except HelperException α :=
  match value with
  | none => throw (.argumentNull paramName)
  | some value => return value

/-! ## The helpers -/

/-- Replace every occurrence of a text of one character. -/
def replace (old : Char) (new : List Char) (s : String) : String :=
  String.ofList (s.toList.flatMap fun c => if c = old then new else [c])

/-- Double the quotes, then the backslashes. -/
def StringEscapeUtil.escape (value : Option String) : Option String :=
  value.map fun value => replace '\\' ['\\', '\\'] (replace '\'' ['\'', '\''] value)

namespace HexUtil

/-- The two digits of a byte, in lower case. -/
def digits (b : UInt8) : List Char :=
  [Nat.digitChar (b.toNat / 16), Nat.digitChar (b.toNat % 16)]

/-- The hexadecimal representation of the UTF-8 encoding. -/
def hexString (s : String) : String := String.ofList (s.toUTF8.data.toList.flatMap digits)

def toHexString (input : Option String) : Except HelperException String := do
  let input ← argument input "input"
  return hexString input

end HexUtil

/-- The date and the time of day. -/
structure DateTime where
  year : Fin 10000
  month : Fin 13
  day : Fin 32
  hour : Fin 24
  minute : Fin 60
  second : Fin 60
  millisecond : Fin 1000

/-- The last `k` decimal digits of a number. -/
def decimal : ℕ → ℕ → List Char
  | 0, _ => []
  | k + 1, n => decimal k (n / 10) ++ [Nat.digitChar (n % 10)]

/-- The digits of a time, in the format `yyMMddHHmmssfff`. -/
def DateTime.digits (t : DateTime) : List Char :=
  decimal 2 t.year ++ decimal 2 t.month ++ decimal 2 t.day ++ decimal 2 t.hour ++
    decimal 2 t.minute ++ decimal 2 t.second ++ decimal 3 t.millisecond

/-- The number of UTF-16 code units. -/
def utf16Length (s : String) : ℕ :=
  (s.toList.map fun c => if c.toNat < 0x10000 then 1 else 2).sum

/-- A generator of identifiers, which all begin with the same four characters. -/
structure IdGenerator where
  start : String
  start_length : utf16Length start = 4

namespace IdGenerator

/-- The constructor. -/
def new (start : Option String) : Except HelperException IdGenerator := do
  let start ← argument start "prefix"
  if h : utf16Length start = 4 then return ⟨start, h⟩
  else throw (.argument "The prefix must be exactly 4 characters long.")

/-- A new identifier, at a time. -/
def generate (g : IdGenerator) (nowUtc : DateTime) : String :=
  g.start ++ String.ofList nowUtc.digits

end IdGenerator

/-- The contents of the two attachments, which are the same image. -/
def AttachmentLoader.loadDefaultDemoImages (file : Option (List UInt8))
    (frontHexKey rearHexKey : Option String) :
    Except HelperException (Dictionary String (Option (List UInt8))) := do
  let frontHexKey ← argument frontHexKey "frontHexKey"
  let rearHexKey ← argument rearHexKey "rearHexKey"
  match file with
  | none => throw (.fileNotFound
      "Demo image file 'InOutParkingCar.png' not found next to the executable.")
  | some imageBytes =>
    if h : frontHexKey = rearHexKey then
      throw (.argument ("An item with the same key has already been added. Key: " ++ rearHexKey))
    else return ⟨[(frontHexKey, some imageBytes), (rearHexKey, some imageBytes)], by simpa using h⟩

namespace SqlBuilder

/-- The type of the attachments. -/
def contentType : String := "\x7b\"contentType\":\"image/png\"\x7d"

def buildInsertWithAttachments (eventId sourceId plate escapedExtraData frontImageId
    frontImageIdHex rearImageId rearImageIdHex : Option String) :
    Except HelperException String := do
  let eventId ← argument eventId "eventId"
  let sourceId ← argument sourceId "sourceId"
  let plate ← argument plate "plate"
  let escapedExtraData ← argument escapedExtraData "escapedExtraData"
  let frontImageId ← argument frontImageId "frontImageId"
  let frontImageIdHex ← argument frontImageIdHex "frontImageIdHex"
  let rearImageId ← argument rearImageId "rearImageId"
  let rearImageIdHex ← argument rearImageIdHex "rearImageIdHex"
  return "\nINSERT INTO multi_event(id, source, plate, extra_data, front_plate_image, rear_plate_image) " ++
    "\n\tVALUES('" ++ eventId ++ "', '" ++ sourceId ++ "', '" ++ plate ++ "', '" ++
    escapedExtraData ++ "', " ++
    "\n\tarray('" ++ frontImageId ++ "'), array('" ++ rearImageId ++ "'));" ++
    "\nINSERT INTO \"multi_event-@attachment\" (id, meta, data) " ++
    "\n\tVALUES('" ++ frontImageId ++ "', '" ++ contentType ++ "', 0x" ++ frontImageIdHex ++ ");" ++
    "\nINSERT INTO \"multi_event-@attachment\" (id, meta, data) " ++
    "\n\tVALUES('" ++ rearImageId ++ "', '" ++ contentType ++ "', 0x" ++ rearImageIdHex ++ ");"

def buildSampleQuery : String := "SELECT id FROM multi_event LIMIT 1"

/-! ## What the statement is meant to be -/

/-- The dialects of SQL: literals are between single quotes, and the backslash is an escape
character or is none. -/
def sql (backslash : Bool) : Dialect Char where
  quote := '\''
  escape := if backslash then some '\\' else none

/-- The code before the values of the event. -/
def insertEvent : String :=
  "\nINSERT INTO multi_event(id, source, plate, extra_data, front_plate_image, rear_plate_image) \n\tVALUES("

/-- The code before the values of an attachment. -/
def insertAttachment : String :=
  "\nINSERT INTO \"multi_event-@attachment\" (id, meta, data) \n\tVALUES("

/-- The statement: one insertion of the event, and one of each attachment, whose data are found
under the hexadecimal representation of its identifier. -/
def insertPieces (eventId sourceId plate extraData frontImageId rearImageId : String) :
    List (Piece Char) :=
  [.code insertEvent.toList, .raw eventId.toList, .code ", ".toList, .raw sourceId.toList,
    .code ", ".toList, .raw plate.toList, .code ", ".toList,
    .encoded (double (fun c => c = '\'' || c = '\\') extraData.toList) extraData.toList,
    .code ", \n\tarray(".toList, .raw frontImageId.toList, .code "), array(".toList,
    .raw rearImageId.toList, .code ("));" ++ insertAttachment).toList,
    .raw frontImageId.toList, .code ", ".toList, .raw contentType.toList,
    .code (", 0x" ++ HexUtil.hexString frontImageId ++ (");" ++ insertAttachment)).toList,
    .raw rearImageId.toList, .code ", ".toList, .raw contentType.toList,
    .code (", 0x" ++ HexUtil.hexString rearImageId ++ ");").toList]

/-! ## What it is read as -/

section Read

variable {backslash : Bool} {c : Char}

/-- The escape character is special where there is one, and the quote is so everywhere. -/
lemma special_iff : (sql backslash).Special c ↔ c = '\'' ∨ (backslash = true ∧ c = '\\') := by
  cases backslash <;> simp [Dialect.Special, sql, eq_comm]

/-- The replacements double what is special in a dialect. -/
lemma toList_escape {value escaped : String}
    (h : StringEscapeUtil.escape (some value) = some escaped) :
    escaped.toList = double (fun c => c = '\'' || c = '\\') value.toList := by
  rw [← Option.some.inj h]
  simp only [replace, double, String.toList_ofList, List.flatMap_assoc]
  refine List.flatMap_congr fun c _ => ?_
  by_cases hquote : c = '\''
  · simp [hquote]
  · by_cases hbackslash : c = '\\' <;> simp [hquote, hbackslash]

/-- What the replacements double is at least what is special. -/
lemma doubled_of_special (h : (sql backslash).Special c) : (c = '\'' || c = '\\') = true := by
  rcases special_iff.mp h with rfl | ⟨-, rfl⟩ <;> rfl

/-- The escaped description stands for the description, unless backslashes were doubled that are no
escape characters. -/
lemma encodes_escape_iff (backslash : Bool) (extraData : String) :
    (sql backslash).Encodes (double (fun c => c = '\'' || c = '\\') extraData.toList)
        extraData.toList ↔
      backslash = true ∨ '\\' ∉ extraData.toList := by
  rw [encodes_double_iff _ fun c => doubled_of_special]
  simp only [special_iff, Bool.or_eq_true, decide_eq_true_eq]
  constructor
  · intro h
    by_cases hmem : '\\' ∈ extraData.toList
    · rcases h _ hmem (.inr rfl) with hquote | ⟨hbackslash, -⟩
      · exact absurd hquote (by decide)
      · exact .inl hbackslash
    · exact .inr hmem
  · rintro (hbackslash | hmem) c hc (hquote | rfl)
    · exact .inl hquote
    · exact .inr ⟨hbackslash, rfl⟩
    · exact .inl hquote
    · exact absurd hc hmem

/-- Digits are no special characters. -/
lemma digitChar_ne {n : ℕ} (h : n < 16) : Nat.digitChar n ≠ '\'' ∧ Nat.digitChar n ≠ '\\' := by
  have hall : ∀ n : Fin 16, Nat.digitChar n ≠ '\'' ∧ Nat.digitChar n ≠ '\\' := by decide
  exact hall ⟨n, h⟩

/-- A hexadecimal representation has no quotes. -/
lemma hexString_ne_quote {s : String} (hc : c ∈ (HexUtil.hexString s).toList) : c ≠ '\'' := by
  rw [HexUtil.hexString, String.toList_ofList, List.mem_flatMap] at hc
  obtain ⟨b, -, hc⟩ := hc
  have hb : b.toNat < 256 := b.toNat_lt
  rcases List.mem_cons.mp hc with rfl | hc
  · exact (digitChar_ne (by omega)).1
  · obtain rfl := List.mem_singleton.mp hc
    exact (digitChar_ne (by omega)).1

/-- Code that may come after a literal: without quotes, and with a beginning without meaning. -/
def follows (s : List Char) : Bool :=
  s.all (· ≠ '\'') && s.head?.any fun c => c ≠ '\'' && c ≠ '\\'

/-- The code around a hexadecimal representation may come after a literal. -/
lemma follows_hexString {before after : String} (image : String)
    (hbefore : follows before.toList = true) (hafter : after.toList.all (· ≠ '\'') = true) :
    follows (before ++ HexUtil.hexString image ++ after).toList = true := by
  simp only [follows, Bool.and_eq_true] at hbefore
  obtain ⟨hquotes, hhead⟩ := hbefore
  have hhex : (HexUtil.hexString image).toList.all (· ≠ '\'') = true :=
    List.all_eq_true.mpr fun c hc => decide_eq_true (hexString_ne_quote hc)
  simp only [follows, String.toList_append, List.all_append, hquotes, hhex, hafter, Bool.and_self,
    Bool.true_and]
  -- the beginning is that of the code before
  cases hlist : before.toList with
  | nil =>
    rw [hlist] at hhead
    cases hhead
  | cons c s =>
    rw [hlist] at hhead
    simpa using hhead

section Template

variable {s : List Char} {ps : List (Piece Char)}

/-- Code that may come after a literal has no quotes. -/
lemma ne_quote_of_follows (hs : follows s = true) : ∀ c ∈ s, c ≠ (sql backslash).quote :=
  fun c hc => of_decide_eq_true (List.all_eq_true.mp (Bool.and_eq_true_iff.mp hs).1 c hc)

/-- Code that may come after a literal does not change how the literal is read. -/
lemma followed_of_follows (hs : follows s = true) : Followed (sql backslash) (.code s :: ps) := by
  have hhead := (Bool.and_eq_true_iff.mp hs).2
  cases s with
  | nil => cases hhead
  | cons c s =>
    intro hspecial
    rcases special_iff.mp hspecial with rfl | ⟨-, rfl⟩ <;> simp at hhead

/-- A literal and the code after it at the front of a template. -/
lemma template_raw (hs : follows s = true) (w : List Char) (h : Template (sql backslash) ps) :
    Template (sql backslash) (.raw w :: .code s :: ps) :=
  ⟨followed_of_follows hs, ne_quote_of_follows hs, h⟩

end Template

variable (backslash) (eventId sourceId plate extraData frontImageId rearImageId : String)

/-- The pieces are a template in either dialect. -/
lemma template_insertPieces : Template (sql backslash)
    (insertPieces eventId sourceId plate extraData frontImageId rearImageId) := by
  have hcomma : follows ", ".toList = true := by decide +kernel
  have hbegin : ∀ c ∈ insertEvent.toList, c ≠ (sql backslash).quote := by
    have hall : insertEvent.toList.all (· ≠ '\'') = true := by decide +kernel
    exact fun c hc => of_decide_eq_true (List.all_eq_true.mp hall c hc)
  refine ⟨hbegin, ?_⟩
  refine template_raw hcomma _ (template_raw hcomma _ (template_raw hcomma _ ?_))
  refine ⟨⟨_, encodes_double _ (fun c => doubled_of_special) extraData.toList⟩, ?_⟩
  have harray : follows ", \n\tarray(".toList = true := by decide +kernel
  refine ⟨followed_of_follows harray, ne_quote_of_follows harray, ?_⟩
  refine template_raw (by decide +kernel) _ (template_raw (by decide +kernel) _ ?_)
  refine template_raw hcomma _ (template_raw ?_ _ ?_)
  · exact follows_hexString frontImageId (by decide +kernel) (by decide +kernel)
  refine template_raw hcomma _ (template_raw ?_ _ trivial)
  exact follows_hexString rearImageId (by decide +kernel) (by decide +kernel)

/-- The texts that are written as they are have no characters that mean something in a literal of
the dialect. -/
structure PlainValues : Prop where
  eventId : (sql backslash).Plain eventId.toList
  sourceId : (sql backslash).Plain sourceId.toList
  plate : (sql backslash).Plain plate.toList
  frontImageId : (sql backslash).Plain frontImageId.toList
  rearImageId : (sql backslash).Plain rearImageId.toList

/-- The pieces are read as they are meant if and only if the values that are written as they are
are plain, and the description is read as it is. -/
lemma lex_insertPieces :
    lex (sql backslash) .code (render (sql backslash)
        (insertPieces eventId sourceId plate extraData frontImageId rearImageId)) =
      some (meant (insertPieces eventId sourceId plate extraData frontImageId rearImageId)) ↔
      PlainValues backslash eventId sourceId plate frontImageId rearImageId ∧
        (backslash = true ∨ '\\' ∉ extraData.toList) := by
  have hcontent : (sql backslash).Plain contentType.toList := by cases backslash <;> decide +kernel
  rw [lex_render (template_insertPieces backslash eventId sourceId plate extraData frontImageId
    rearImageId), ← encodes_escape_iff]
  constructor
  · rintro ⟨hraw, hencoded⟩
    refine ⟨?_, hencoded _ _ (by simp [insertPieces])⟩
    constructor <;> exact hraw _ (by simp [insertPieces])
  · rintro ⟨⟨hevent, hsource, hplate, hfront, hrear⟩, hdescription⟩
    constructor
    · intro w hw
      simp only [insertPieces, List.mem_cons, Piece.raw.injEq, reduceCtorEq, List.not_mem_nil,
        or_false, false_or] at hw
      rcases hw with rfl | rfl | rfl | rfl | rfl | rfl | rfl | rfl | rfl <;> assumption
    · intro text value hencoded
      simp only [insertPieces, List.mem_cons, Piece.encoded.injEq, reduceCtorEq, List.not_mem_nil,
        or_false, false_or] at hencoded
      obtain ⟨rfl, rfl⟩ := hencoded
      exact hdescription

set_option maxRecDepth 4096 in
/-- The text that is built is put together from the pieces of either dialect. -/
lemma build_eq_render : ∃ text,
    buildInsertWithAttachments (some eventId) (some sourceId) (some plate)
      (StringEscapeUtil.escape (some extraData)) (some frontImageId)
      (some (HexUtil.hexString frontImageId)) (some rearImageId)
      (some (HexUtil.hexString rearImageId)) = .ok text ∧
    ∀ backslash, text.toList = render (sql backslash)
      (insertPieces eventId sourceId plate extraData frontImageId rearImageId) := by
  obtain ⟨escaped, hescaped⟩ : ∃ escaped, StringEscapeUtil.escape (some extraData) = some escaped :=
    ⟨_, rfl⟩
  rw [hescaped]
  refine ⟨_, rfl, fun backslash => ?_⟩
  have hquote : (sql backslash).quote = '\'' := rfl
  simp only [insertPieces, insertEvent, insertAttachment, render, hquote, String.toList_append,
    ← toList_escape hescaped]
  simp

/-- The statement that is built from identifiers and an escaped description, in either dialect: it
is read as it is meant, with the values that were put in, if and only if the identifiers and the
plate are plain and the description has no backslash, or the backslash is an escape character. -/
theorem insert_read : ∃ text,
    buildInsertWithAttachments (some eventId) (some sourceId) (some plate)
      (StringEscapeUtil.escape (some extraData)) (some frontImageId)
      (some (HexUtil.hexString frontImageId)) (some rearImageId)
      (some (HexUtil.hexString rearImageId)) = .ok text ∧
    ∀ backslash, lex (sql backslash) .code text.toList = some (meant
        (insertPieces eventId sourceId plate extraData frontImageId rearImageId)) ↔
      PlainValues backslash eventId sourceId plate frontImageId rearImageId ∧
        (backslash = true ∨ '\\' ∉ extraData.toList) := by
  obtain ⟨text, hbuild, hrender⟩ := build_eq_render eventId sourceId plate extraData frontImageId
    rearImageId
  refine ⟨text, hbuild, fun backslash => ?_⟩
  rw [hrender backslash]
  exact lex_insertPieces backslash eventId sourceId plate extraData frontImageId rearImageId

end Read

end SqlBuilder

/-! ## The sample event -/

namespace HexUtil

/-- The digits of a byte belong to no other byte. -/
lemma digits_injective {b b' : UInt8} (h : digits b = digits b') : b = b' := by
  have hall : ∀ m n : Fin 16, Nat.digitChar m = Nat.digitChar n → m = n := by decide
  have hdigit : ∀ {m n : ℕ}, m < 16 → n < 16 → Nat.digitChar m = Nat.digitChar n → m = n :=
    fun hm hn heq => congrArg Fin.val (hall ⟨_, hm⟩ ⟨_, hn⟩ heq)
  have hb : b.toNat < 256 := b.toNat_lt
  have hb' : b'.toNat < 256 := b'.toNat_lt
  obtain ⟨hhigh, hlow⟩ := List.cons.inj h
  have hhigh := hdigit (by omega) (by omega) hhigh
  have hlow := hdigit (by omega) (by omega) (List.cons.inj hlow).1
  exact UInt8.toNat_inj.mp (by omega)

/-- The digits of bytes belong to no other bytes. -/
lemma flatMap_digits_injective {bs bs' : List UInt8} (h : bs.flatMap digits = bs'.flatMap digits) :
    bs = bs' := by
  induction bs generalizing bs' with
  | nil =>
    cases bs' with
    | nil => rfl
    | cons => cases h
  | cons b bs ih =>
    cases bs' with
    | nil => cases h
    | cons b' bs' =>
      rw [List.flatMap_cons, List.flatMap_cons] at h
      obtain ⟨hfirst, hothers⟩ := List.append_inj h rfl
      rw [digits_injective hfirst, ih hothers]

/-- Two texts with the same hexadecimal representation are the same. -/
theorem hexString_injective {s s' : String} (h : hexString s = hexString s') : s = s' := by
  have hbytes := flatMap_digits_injective (String.ofList_injective h)
  have hdata : s.toUTF8.data = s'.toUTF8.data := Array.toList_inj.mp hbytes
  exact String.toByteArray_inj.mp (ByteArray.ext hdata)

end HexUtil

/-- A decimal representation is plain. -/
lemma plain_decimal (backslash : Bool) (k n : ℕ) :
    (SqlBuilder.sql backslash).Plain (decimal k n) := by
  induction k generalizing n with
  | zero => simp [decimal, Dialect.Plain]
  | succ k ih =>
    refine Dialect.plain_append.mpr ⟨ih _, ?_⟩
    intro c hc hspecial
    obtain rfl := List.mem_singleton.mp hc
    have hdigit := SqlBuilder.digitChar_ne (show n % 10 < 16 by omega)
    rcases SqlBuilder.special_iff.mp hspecial with h | ⟨-, h⟩
    · exact hdigit.1 h
    · exact hdigit.2 h

/-- A decimal representation has as many digits as are asked for. -/
lemma length_decimal (k n : ℕ) : (decimal k n).length = k := by
  induction k generalizing n with
  | zero => rfl
  | succ k ih => rw [decimal, List.length_append, ih, List.length_singleton]

/-- An identifier is plain if its first characters are, and those that come after the digits. -/
lemma IdGenerator.plain_generate {g : IdGenerator} {t : DateTime} {backslash : Bool}
    {suffix : String} (hsuffix : (SqlBuilder.sql backslash).Plain suffix.toList) :
    (SqlBuilder.sql backslash).Plain (g.generate t ++ suffix).toList ↔
      (SqlBuilder.sql backslash).Plain g.start.toList := by
  have hdigits : (SqlBuilder.sql backslash).Plain t.digits := by
    simp only [DateTime.digits, Dialect.plain_append, plain_decimal, and_self]
  rw [IdGenerator.generate, String.toList_append, String.toList_append, String.toList_ofList,
    Dialect.plain_append, Dialect.plain_append]
  simp [hdigits, hsuffix]

namespace ListenerImpl

/-- The description of the sample event. -/
def extraDataJson : String :=
  "\x7b\n  \"eventType\": \"demo-insert\",\n" ++
  "  \"description\": \"Sample event with two PNG attachments from C# GDS SDK demo\",\n" ++
  "  \"plateCountry\": \"HU\",\n  \"confidence\": 0.99\n\x7d"

/-- What is sent when the login has succeeded: the statement and the contents of the attachments.
Every identifier has its own time. -/
def sampleEvent (g : IdGenerator) (sourceId : Option String) (file : Option (List UInt8))
    (eventTime frontTime rearTime : DateTime) :
    Except HelperException (String × Dictionary String (Option (List UInt8))) := do
  let eventId := g.generate eventTime ++ "_EVENT"
  let frontImageId := g.generate frontTime ++ "_FRONT"
  let rearImageId := g.generate rearTime ++ "_REAR"
  let frontImageIdHex ← HexUtil.toHexString (some frontImageId)
  let rearImageIdHex ← HexUtil.toHexString (some rearImageId)
  let escapedExtraData := StringEscapeUtil.escape (some extraDataJson)
  let insertSql ← SqlBuilder.buildInsertWithAttachments (some eventId) sourceId (some "ABC123")
    escapedExtraData (some frontImageId) (some frontImageIdHex) (some rearImageId)
    (some rearImageIdHex)
  let binaryContents ← AttachmentLoader.loadDefaultDemoImages file (some frontImageIdHex)
    (some rearImageIdHex)
  return (insertSql, binaryContents)

/-- The identifiers of the two attachments differ, whatever the times are. -/
lemma frontImageId_ne (g : IdGenerator) (frontTime rearTime : DateTime) :
    g.generate frontTime ++ "_FRONT" ≠ g.generate rearTime ++ "_REAR" := by
  have hlength : ∀ t, (g.generate t).toList.length = g.start.toList.length + 15 := by
    intro t
    simp [IdGenerator.generate, DateTime.digits, length_decimal]
  intro heq
  have htexts := congrArg (fun s => s.toList.length) heq
  simp only [String.toList_append, List.length_append, hlength] at htexts
  have hfront : "_FRONT".toList.length = 6 := by decide +kernel
  have hrear : "_REAR".toList.length = 5 := by decide +kernel
  omega

/-- The sample event of a source is built whenever the image is there.  Its attachments have
different keys, which are the hexadecimal representations of their identifiers in the statement; and
in either dialect the statement is read as it is meant if and only if the name of the source and the
first characters of the identifiers are plain. -/
theorem sampleEvent_read (g : IdGenerator) (source : String) (image : List UInt8)
    (eventTime frontTime rearTime : DateTime) (backslash : Bool) :
    ∃ text contents, sampleEvent g (some source) (some image) eventTime frontTime rearTime =
        .ok (text, contents) ∧
      contents.entries = [(HexUtil.hexString (g.generate frontTime ++ "_FRONT"), some image),
        (HexUtil.hexString (g.generate rearTime ++ "_REAR"), some image)] ∧
      (lex (SqlBuilder.sql backslash) .code text.toList = some (meant (SqlBuilder.insertPieces
          (g.generate eventTime ++ "_EVENT") source "ABC123" extraDataJson
          (g.generate frontTime ++ "_FRONT") (g.generate rearTime ++ "_REAR"))) ↔
        (SqlBuilder.sql backslash).Plain source.toList ∧
          (SqlBuilder.sql backslash).Plain g.start.toList) := by
  obtain ⟨text, hbuild, hrender⟩ := SqlBuilder.build_eq_render
    (g.generate eventTime ++ "_EVENT") source "ABC123" extraDataJson
    (g.generate frontTime ++ "_FRONT") (g.generate rearTime ++ "_REAR")
  have hkeys : HexUtil.hexString (g.generate frontTime ++ "_FRONT") ≠
      HexUtil.hexString (g.generate rearTime ++ "_REAR") :=
    fun heq => frontImageId_ne g frontTime rearTime (HexUtil.hexString_injective heq)
  refine ⟨text, ⟨[(_, some image), (_, some image)], by simpa using hkeys⟩, ?_, rfl, ?_⟩
  · simp only [sampleEvent, HexUtil.toHexString, argument, pure_bind, hbuild,
      AttachmentLoader.loadDefaultDemoImages, dif_neg hkeys]
    rfl
  · rw [hrender backslash, SqlBuilder.lex_insertPieces]
    have hevent : (SqlBuilder.sql backslash).Plain "_EVENT".toList := by
      cases backslash <;> decide +kernel
    have hfront : (SqlBuilder.sql backslash).Plain "_FRONT".toList := by
      cases backslash <;> decide +kernel
    have hrear : (SqlBuilder.sql backslash).Plain "_REAR".toList := by
      cases backslash <;> decide +kernel
    constructor
    · intro h
      exact ⟨h.1.sourceId, (IdGenerator.plain_generate hevent).mp h.1.eventId⟩
    · rintro ⟨hsource, hstart⟩
      have hplate : (SqlBuilder.sql backslash).Plain "ABC123".toList := by
        cases backslash <;> decide +kernel
      exact ⟨⟨(IdGenerator.plain_generate hevent).mpr hstart, hsource, hplate,
        (IdGenerator.plain_generate hfront).mpr hstart,
        (IdGenerator.plain_generate hrear).mpr hstart⟩, .inr (by decide +kernel)⟩

end ListenerImpl

end Gds
