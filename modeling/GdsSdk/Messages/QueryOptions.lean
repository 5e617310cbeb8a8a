import GdsSdk.Messages.Output

/-!
# The options of a query request

A query request has two options, the page size and the query type, and its formatter writes an
array of five elements if both are given and of three elements otherwise.  This file compares
the encodings of two requests, and a request with what the decoder makes of its encoding.

The consistency type travels as a text.  `ConsistencyType.parse_text` says that the decoder's
parser undoes it for every type, also for one without a name, whose text is its number.
-/

namespace Gds

open MsgPack

namespace ConsistencyType

/-! ## The text of a consistency type -/

/-- A digit is not a blank. -/
lemma isWhitespace_of_isDigit {c : Char} (h : c.isDigit = true) : c.isWhitespace = false := by
  by_contra hspace
  simp only [Char.isWhitespace, Bool.not_eq_false, Bool.or_eq_true, decide_eq_true_eq] at hspace
  rcases hspace with ((rfl | rfl) | rfl) | rfl <;> exact absurd h (by decide)

/-- A text of digits denotes the number that is read from them in base ten. -/
lemma digits_eq_some {cs : List Char} (h : ∀ c ∈ cs, c.isDigit = true) (n : ℕ) :
    digits cs n = some (Nat.ofDigitChars 10 cs n) := by
  induction cs generalizing n with
  | nil => rfl
  | cons c cs ih =>
    have hcs : ∀ c' ∈ cs, c'.isDigit = true := fun c' hc' => h c' (List.mem_cons_of_mem c hc')
    rw [digits, if_pos (h c List.mem_cons_self), ih hcs, Nat.ofDigitChars_cons]

/-- A text without blanks has none around it. -/
lemma trim_eq_self {cs : List Char} (h : ∀ c ∈ cs, c.isWhitespace = false) : trim cs = cs := by
  have hdrop : ∀ ds : List Char, (∀ c ∈ ds, c.isWhitespace = false) →
      ds.dropWhile Char.isWhitespace = ds := by
    intro ds hds
    cases ds with
    | nil => rfl
    | cons d ds => rw [List.dropWhile_cons_of_neg (by simp [hds d List.mem_cons_self])]
  rw [trim, hdrop cs h, hdrop cs.reverse fun c hc => h c (List.mem_reverse.mp hc),
    List.reverse_reverse]

/-- The number that a natural number's own digits denote. -/
lemma digits_toDigits (n : ℕ) : digits (Nat.toDigits 10 n) 0 = some n := by
  have hdigits : ∀ c ∈ Nat.toDigits 10 n, c.isDigit = true :=
    fun c hc => Nat.isDigit_of_mem_toDigits (by omega) (by omega) hc
  rw [digits_eq_some hdigits, Nat.ofDigitChars_ten_toDigits]

/-- A natural number is read back from its digits. -/
lemma ofNumber_toDigits (n : ℕ) : ofNumber (Nat.toDigits 10 n) = some (n : ℤ) := by
  have hdigit : ∀ c ∈ Nat.toDigits 10 n, c.isDigit = true :=
    fun c hc => Nat.isDigit_of_mem_toDigits (by omega) (by omega) hc
  have hread := digits_toDigits n
  cases hcs : Nat.toDigits 10 n with
  | nil => exact absurd hcs Nat.toDigits_ne_nil
  | cons c cs =>
    rw [hcs] at hdigit hread
    have hc : c.isDigit = true := hdigit c List.mem_cons_self
    have hminus : c ≠ '-' := by
      rintro rfl
      exact absurd hc (by decide)
    have hplus : c ≠ '+' := by
      rintro rfl
      exact absurd hc (by decide)
    simp [ofNumber, hminus, hplus, hread]

/-- A negative number is read back from its sign and its digits. -/
lemma ofNumber_neg_toDigits (n : ℕ) :
    ofNumber ('-' :: Nat.toDigits 10 n) = some (-(n : ℤ)) := by
  have hread := digits_toDigits n
  cases hcs : Nat.toDigits 10 n with
  | nil => exact absurd hcs Nat.toDigits_ne_nil
  | cons c cs =>
    rw [hcs] at hread
    rw [ofNumber, hread]
    rfl

/-- The decimal text of an integer denotes it, and has no blanks around it. -/
lemma ofNumber_trim_toString (n : ℤ) : ofNumber (trim (toString n).toList) = some n := by
  have hspace : ∀ k : ℕ, ∀ c ∈ Nat.toDigits 10 k, c.isWhitespace = false := fun k c hc =>
    isWhitespace_of_isDigit (Nat.isDigit_of_mem_toDigits (by omega) (by omega) hc)
  cases n with
  | ofNat k =>
    have htext : (toString (Int.ofNat k)).toList = Nat.toDigits 10 k := Nat.toList_repr
    rw [htext, trim_eq_self (hspace k), ofNumber_toDigits]
    rfl
  | negSucc k =>
    have htext : (toString (Int.negSucc k)).toList = '-' :: Nat.toDigits 10 (k + 1) := by
      change ("-" ++ Nat.repr (k + 1)).toList = _
      rw [String.toList_append, Nat.toList_repr]
      rfl
    have hblank : ∀ c ∈ '-' :: Nat.toDigits 10 (k + 1), c.isWhitespace = false := by
      intro c hc
      rcases List.mem_cons.mp hc with rfl | hc
      · rfl
      · exact hspace (k + 1) c hc
    rw [htext, trim_eq_self hblank, ofNumber_neg_toDigits]
    rfl

/-- The parser undoes the text of every type. -/
theorem parse_text (t : ConsistencyType) : parse t.text = some t := by
  by_cases hpage : t = page
  · subst hpage
    decide
  by_cases hpages : t = pages
  · subst hpages
    decide
  by_cases hnone : t = none
  · subst hnone
    decide
  -- the text of a type without name is its number, which fits 32 bits
  have htext : t.text = toString t.code.toInt := by
    rw [text, if_neg hpage, if_neg hpages, if_neg hnone]
  have hrange : -2 ^ 31 ≤ t.code.toInt ∧ t.code.toInt < 2 ^ 31 :=
    ⟨t.code.le_toInt, t.code.toInt_lt⟩
  rw [htext, parse, ofNumber_trim_toString]
  simp only [if_pos hrange, Int32.ofInt_toInt]

/-- Two types with the same text are the same. -/
lemma text_injective : Function.Injective text := by
  intro t t' h
  have hparse : parse t.text = parse t'.text := by rw [h]
  rw [parse_text, parse_text] at hparse
  exact Option.some.inj hparse

end ConsistencyType

namespace QueryRequestData

/-- A request that gives both of its options. -/
def HasOptions (q : QueryRequestData) : Prop := q.queryPageSize.isSome ∧ q.queryType.isSome

/-- Two requests that agree in everything but their options. -/
structure SameQuery (q q' : QueryRequestData) : Prop where
  selectStringBlock : q.selectStringBlock = q'.selectStringBlock
  consistencyType : q.consistencyType = q'.consistencyType
  timeout : q.timeout = q'.timeout

instance (q : QueryRequestData) : Decidable q.HasOptions := inferInstanceAs (Decidable (_ ∧ _))

/-- Requests that also agree in their options are equal. -/
lemma SameQuery.eq {q q' : QueryRequestData} (h : q.SameQuery q')
    (hsize : q.queryPageSize = q'.queryPageSize) (htype : q.queryType = q'.queryType) : q = q' := by
  obtain ⟨hselect, hconsistency, htimeout⟩ := h
  cases q
  cases q'
  subst hselect hconsistency htimeout hsize htype
  rfl

/-- The options of a request that gives both. -/
lemma hasOptions_iff {q : QueryRequestData} :
    q.HasOptions ↔ ∃ pageSize type, q.queryPageSize = some pageSize ∧ q.queryType = some type := by
  simp [HasOptions, Option.isSome_iff_exists]

end QueryRequestData

namespace QueryRequestFormatter

/-! ## The two forms of an encoding -/

/-- The elements of the fields that every request has. -/
def common (q : QueryRequestData) : List WriteOp :=
  [.string q.selectStringBlock, .string (some q.consistencyType.text), .int64 q.timeout]

/-- A request with both options has five elements. -/
lemma serialize_of_options {q : QueryRequestData} {pageSize : Int32} {type : QueryType}
    (hsize : q.queryPageSize = some pageSize) (htype : q.queryType = some type) :
    serialize q = .arrayHeader 5 ::
      (common q ++ [.integer pageSize.toInt, .integer type.code.toInt]) := by
  rw [serialize, hsize, htype]
  rfl

/-- A request that lacks an option has three elements, whatever the other option is. -/
lemma serialize_of_not_hasOptions {q : QueryRequestData} (h : ¬ q.HasOptions) :
    serialize q = .arrayHeader 3 :: common q := by
  unfold serialize
  split
  · next pageSize type hsize htype =>
    exact absurd (QueryRequestData.hasOptions_iff.mpr ⟨pageSize, type, hsize, htype⟩) h
  · rfl

/-- In the encoding of a request every header has its parts. -/
lemma covered_serialize (q : QueryRequestData) : Covered (written (serialize q)) := by
  obtain ⟨v, hv⟩ := serialize_wellFormed q
  rw [hv]
  exact covered_elements v

/-- The common fields of a request are told apart by their elements. -/
lemma sameQuery_of_common_eq {q q' : QueryRequestData}
    (h : written (common q) = written (common q')) : q.SameQuery q' := by
  simp only [common, written_cons, written_nil, List.cons.injEq, WriteOp.toElement_int64,
    Element.integer.injEq, Int64.toInt_inj, and_true] at h
  obtain ⟨hselect, hconsistency, htimeout⟩ := h
  refine ⟨?_, ConsistencyType.text_injective ?_, htimeout⟩
  · cases hq : q.selectStringBlock <;> cases hq' : q'.selectStringBlock <;>
      simp_all [WriteOp.string]
  · simpa [WriteOp.string] using hconsistency

/-- Requests that lack an option and agree in everything else have the same encoding. -/
lemma serialize_eq_of_sameQuery {q q' : QueryRequestData} (h : q.SameQuery q')
    (hq : ¬ q.HasOptions) (hq' : ¬ q'.HasOptions) : serialize q = serialize q' := by
  rw [serialize_of_not_hasOptions hq, serialize_of_not_hasOptions hq', common, common,
    h.selectStringBlock, h.consistencyType, h.timeout]

/-- Two requests whose elements agree are equal, or both lack an option. -/
lemma eq_or_not_hasOptions_of_written_eq {q q' : QueryRequestData}
    (h : written (serialize q) = written (serialize q')) :
    q = q' ∨ (q.SameQuery q' ∧ ¬ q.HasOptions ∧ ¬ q'.HasOptions) := by
  by_cases hq : q.HasOptions
  · by_cases hq' : q'.HasOptions
    · -- both give their options: all five fields are written
      obtain ⟨pageSize, type, hsize, htype⟩ := QueryRequestData.hasOptions_iff.mp hq
      obtain ⟨pageSize', type', hsize', htype'⟩ := QueryRequestData.hasOptions_iff.mp hq'
      rw [serialize_of_options hsize htype, serialize_of_options hsize' htype', written_cons,
        written_cons, written_append, written_append, List.cons.injEq] at h
      have hlength : (written (common q)).length = (written (common q')).length := rfl
      obtain ⟨hcommon, hoptions⟩ := List.append_inj h.2 hlength
      have hsame := sameQuery_of_common_eq hcommon
      simp only [written_cons, written_nil, List.cons.injEq, WriteOp.toElement_integer,
        Element.integer.injEq, Int32.toInt_inj, and_true] at hoptions
      have htypes : type = type' := by
        cases type
        cases type'
        exact congrArg QueryType.mk hoptions.2
      refine .inl (hsame.eq ?_ ?_)
      · rw [hsize, hsize', hoptions.1]
      · rw [htype, htype', htypes]
    · -- an array of five elements is not one of three
      obtain ⟨pageSize, type, hsize, htype⟩ := QueryRequestData.hasOptions_iff.mp hq
      rw [serialize_of_options hsize htype, serialize_of_not_hasOptions hq'] at h
      simp at h
  · by_cases hq' : q'.HasOptions
    · obtain ⟨pageSize, type, hsize, htype⟩ := QueryRequestData.hasOptions_iff.mp hq'
      rw [serialize_of_options hsize htype, serialize_of_not_hasOptions hq] at h
      simp at h
    · rw [serialize_of_not_hasOptions hq, serialize_of_not_hasOptions hq', written_cons,
        written_cons, List.cons.injEq] at h
      exact .inr ⟨sameQuery_of_common_eq h.2, hq, hq'⟩

/-- A request with both options is read back. -/
lemma reads_of_hasOptions {q : QueryRequestData} (h : q.HasOptions) :
    Reads deserialize (written (serialize q)) q := by
  obtain ⟨pageSize, type, hsize, htype⟩ := QueryRequestData.hasOptions_iff.mp h
  rw [serialize_of_options hsize htype]
  refine (Reads.readArrayHeader 5).bind_cons ?_
  refine (Reads.readString q.selectStringBlock).bind_cons ?_
  refine (Reads.readString (some q.consistencyType.text)).bind_cons ?_
  simp only [ConsistencyType.parse_text]
  refine (Reads.readInt64 q.timeout).bind_cons ?_
  refine (Reads.readInt32 pageSize).bind_cons ?_
  have hq : (⟨q.selectStringBlock, q.consistencyType, q.timeout, some pageSize, some type⟩ :
      QueryRequestData) = q := by
    rw [← hsize, ← htype]
  exact (Reads.readInt32 type.code).bind_cons (hq ▸ Reads.pure q)

/-- A request without an option makes the decoder fail on its query type. -/
lemma throws_of_not_hasOptions {q : QueryRequestData} (h : ¬ q.HasOptions) :
    Throws deserialize (written (serialize q))
      (.invalidOperation "Nullable object must have a value.") := by
  rw [serialize_of_not_hasOptions h]
  refine Throws.bind_cons (Reads.readArrayHeader 3) ?_
  refine Throws.bind_cons (Reads.readString q.selectStringBlock) ?_
  refine Throws.bind_cons (Reads.readString (some q.consistencyType.text)) ?_
  simp only [ConsistencyType.parse_text]
  exact Throws.bind_cons (Reads.readInt64 q.timeout) (Throws.throw _)

/-! ## What the encoding keeps -/

/-- The encodings of two different requests differ, unless the requests agree in everything but
their options and each of them lacks one. -/
theorem encodings_ne_iff {F : WireFormat} {q q' : QueryRequestData} {b b' : List UInt8}
    (hne : q ≠ q') (hb : F.encodeAll (serialize q) = some b)
    (hb' : F.encodeAll (serialize q') = some b') :
    b ≠ b' ↔ ¬ (q.SameQuery q' ∧ ¬ q.HasOptions ∧ ¬ q'.HasOptions) := by
  constructor
  · rintro hbytes ⟨hsame, hq, hq'⟩
    rw [serialize_eq_of_sameQuery hsame hq hq', hb'] at hb
    exact hbytes (Option.some.inj hb).symm
  · rintro hkept rfl
    have helements : written (serialize q) = written (serialize q') := by
      rw [← F.elements_encodeAll (covered_serialize q) hb,
        F.elements_encodeAll (covered_serialize q') hb']
    rcases eq_or_not_hasOptions_of_written_eq helements with heq | hlost
    · exact hne heq
    · exact hkept hlost

/-- A request with a page size and a query type is told from the one with another page size. -/
theorem encodings_ne_pageSizes :
    let q : QueryRequestData := ⟨some "q", .pages, 30000, some 100, some ⟨1⟩⟩
    let q' : QueryRequestData := ⟨some "q", .pages, 30000, some 200, some ⟨1⟩⟩
    ([149, 161, 113, 165, 80, 65, 71, 69, 83, 211, 0, 0, 0, 0, 0, 0, 117, 48, 100, 1] :
      List UInt8) ≠ [149, 161, 113, 165, 80, 65, 71, 69, 83, 211, 0, 0, 0, 0, 0, 0, 117, 48, 204,
        200, 1] ↔
      ¬ (q.SameQuery q' ∧ ¬ q.HasOptions ∧ ¬ q'.HasOptions) :=
  encodings_ne_iff (F := standard) (by decide) (by decide) (by decide)

/-- A page size without a query type is lost: the request has the bytes of one without both. -/
theorem encodings_eq_pageSize_alone :
    let q : QueryRequestData := ⟨some "q", .pages, 30000, some 100, none⟩
    let q' : QueryRequestData := ⟨some "q", .pages, 30000, none, none⟩
    let b : List UInt8 := [147, 161, 113, 165, 80, 65, 71, 69, 83, 211, 0, 0, 0, 0, 0, 0, 117, 48]
    q ≠ q' ∧ standard.encodeAll (serialize q) = some b ∧
      standard.encodeAll (serialize q') = some b := by
  decide

/-- A request is decoded from its encoding, with exactly the bytes of the encoding consumed, if
it gives both options; otherwise the decoder converts a query type that is not there. -/
theorem deserialize_encoding_iff {F : WireFormat} {q : QueryRequestData} {b : List UInt8}
    (hb : F.encodeAll (serialize q) = some b) (rest : List UInt8) :
    deserialize.run (F.elements (b ++ rest)) = .ok (q, F.elements rest) ↔ q.HasOptions := by
  rw [F.elements_encodeAll_append (covered_serialize q) hb]
  constructor
  · intro hread
    by_contra hq
    exact (throws_of_not_hasOptions hq).not_reads _ _ hread
  · intro hq
    exact reads_of_hasOptions hq (F.elements rest)

/-- A request with both options in the concrete byte format, followed by another byte. -/
theorem deserialize_encoding_scroll :
    let q : QueryRequestData := ⟨some "q", .none, 0, some 100, some ⟨1⟩⟩
    deserialize.run (standard.elements ([149, 161, 113, 164, 78, 79, 78, 69, 211, 0, 0, 0, 0, 0, 0,
      0, 0, 100, 1] ++ [192])) = .ok (q, standard.elements [192]) ↔ q.HasOptions :=
  deserialize_encoding_iff (F := standard) (by decide) [192]

/-- A request without options, which is encoded but not decoded. -/
theorem deserialize_encoding_without_options :
    let q : QueryRequestData := ⟨some "q", .none, 0, none, none⟩
    let b : List UInt8 := [147, 161, 113, 164, 78, 79, 78, 69, 211, 0, 0, 0, 0, 0, 0, 0, 0]
    standard.encodeAll (serialize q) = some b ∧
      deserialize.run (standard.elements b) ≠ .ok (q, []) := by
  decide

end QueryRequestFormatter

end Gds
