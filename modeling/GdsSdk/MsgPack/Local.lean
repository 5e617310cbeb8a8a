import GdsSdk.MsgPack.Relays

/-!
# Readers that look no further than they read

A reader is `Local` if a successful run depends on nothing but the elements that it has consumed,
and `Framed` if it consumes at least one of them, so that it may be preceded by a look at the next
element.  Every combination of such readers is one, and so is the deserializer of every class.

Two laws follow.  What comes after a value has no influence on how it is read (`Framed.append`),
also for a whole buffer (`WireFormat.elements_append`).  And a class with integer keys that is read
from an array can be read from a longer one, whose further values it skips (`Fields.Extends`).
-/

namespace MsgPack

open Value

/-- A successful run of `r` consumes elements from the front, and does the same whatever follows
them. -/
def Local {α : Type} (r : Reader α) : Prop :=
  ∀ (es rest : List Element) (a : α), r.run es = .ok (a, rest) →
    ∃ used, es = used ++ rest ∧ Reads r used a

/-- A successful run of `r` consumes at least one element, and does the same whatever follows. -/
def Framed {α : Type} (r : Reader α) : Prop :=
  ∀ (es rest : List Element) (a : α), r.run es = .ok (a, rest) →
    ∃ e used, es = e :: (used ++ rest) ∧ Reads r (e :: used) a

namespace Local

variable {α β : Type} {r : Reader α}

lemma pure (a : α) : Local (Pure.pure a : Reader α) := by
  intro es rest a' h
  obtain ⟨rfl, rfl⟩ := Reader.run_pure_eq_ok.mp h
  exact ⟨[], rfl, Reads.pure a⟩

lemma throw (e : ReadError) : Local (MonadExcept.throw e : Reader α) := by
  intro es rest a h
  cases h

/-- A sequence looks no further than its parts do. -/
lemma bind {k : α → Reader β} (hr : Local r) (hk : ∀ a, Local (k a)) : Local (r >>= k) := by
  intro es rest b h
  rw [Reader.run_bind_eq_ok] at h
  obtain ⟨a, es', ha, hb⟩ := h
  obtain ⟨used, rfl, hread⟩ := hr _ _ _ ha
  obtain ⟨used', rfl, hread'⟩ := hk a _ _ _ hb
  exact ⟨used ++ used', (List.append_assoc _ _ _).symm, hread.bind hread'⟩

lemma map (f : α → β) (hr : Local r) : Local (f <$> r) := by
  intro es rest b h
  rw [Reader.run_map_eq_ok] at h
  obtain ⟨a, ha, rfl⟩ := h
  obtain ⟨used, rfl, hread⟩ := hr _ _ _ ha
  exact ⟨used, rfl, hread.map f⟩

lemma replicate (hr : Local r) (n : ℕ) : Local (Reader.replicate r n) := by
  induction n with
  | zero => exact Local.pure []
  | succ n ih => exact hr.bind fun a => ih.bind fun as => Local.pure (a :: as)

/-- Skipping goes by the elements that are skipped. -/
lemma skip (n : ℕ) : Local (Reader.skip n) := by
  intro es rest u h
  rw [Reader.run_skip_eq_ok] at h
  have hsplit : ∃ used, es = used ++ rest ∧ skipFrom n used = .ok [] := by
    induction es generalizing n with
    | nil =>
      cases n with
      | zero =>
        cases h
        exact ⟨[], rfl, skipFrom_zero []⟩
      | succ n => cases h
    | cons e es ih =>
      cases n with
      | zero =>
        rw [skipFrom_zero] at h
        cases h
        exact ⟨[], rfl, skipFrom_zero []⟩
      | succ n =>
        rw [skipFrom_succ_cons] at h
        obtain ⟨used, rfl, hused⟩ := ih _ h
        refine ⟨e :: used, rfl, ?_⟩
        rw [skipFrom_succ_cons]
        exact hused
  obtain ⟨used, rfl, hused⟩ := hsplit
  exact ⟨used, rfl, fun rest' => Reader.run_skip_eq_ok.mpr (skipFrom_append hused rest')⟩

end Local

namespace Framed

variable {α β : Type} {r : Reader α}

/-- A reader that consumes elements is one that looks no further. -/
lemma toLocal (hr : Framed r) : Local r := by
  intro es rest a h
  obtain ⟨e, used, rfl, hread⟩ := hr _ _ _ h
  exact ⟨e :: used, rfl, hread⟩

/-- What follows a value that was read has no influence on it. -/
lemma append (hr : Framed r) {es rest : List Element} {a : α} (h : r.run es = .ok (a, rest))
    (s : List Element) : r.run (es ++ s) = .ok (a, rest ++ s) := by
  obtain ⟨e, used, rfl, hread⟩ := hr _ _ _ h
  have hrun := hread (rest ++ s)
  rwa [← List.append_assoc] at hrun

lemma throw (e : ReadError) : Framed (MonadExcept.throw e : Reader α) := by
  intro es rest a h
  cases h

/-- A reader of single elements. -/
lemma of_run (enc : α → Element)
    (hr : ∀ {es rest : List Element} {a : α}, r.run es = .ok (a, rest) ↔ es = enc a :: rest) :
    Framed r := by
  intro es rest a h
  exact ⟨enc a, [], hr.mp h, fun rest' => hr.mpr rfl⟩

/-- A sequence consumes an element if its first part does. -/
lemma bind {k : α → Reader β} (hr : Framed r) (hk : ∀ a, Local (k a)) : Framed (r >>= k) := by
  intro es rest b h
  rw [Reader.run_bind_eq_ok] at h
  obtain ⟨a, es', ha, hb⟩ := h
  obtain ⟨e, used, rfl, hread⟩ := hr _ _ _ ha
  obtain ⟨used', rfl, hread'⟩ := hk a _ _ _ hb
  exact ⟨e, used ++ used', by rw [List.append_assoc], hread.bind hread'⟩

lemma map (f : α → β) (hr : Framed r) : Framed (f <$> r) := by
  intro es rest b h
  rw [Reader.run_map_eq_ok] at h
  obtain ⟨a, ha, rfl⟩ := h
  obtain ⟨e, used, rfl, hread⟩ := hr _ _ _ ha
  exact ⟨e, used, rfl, hread.map f⟩

/-- A look at the type of the next element goes no further, if that element is then consumed. -/
lemma nextType {k : ElementType → Reader β} (hk : ∀ t, Framed (k t)) :
    Framed (Reader.nextType >>= k) := by
  intro es rest b h
  rw [Reader.run_nextType_bind_eq_ok] at h
  obtain ⟨e, es', rfl, h⟩ := h
  obtain ⟨e', used, heq, hread⟩ := hk _ _ _ _ h
  obtain ⟨rfl, rfl⟩ := List.cons.inj heq
  exact ⟨e, used, rfl, hread.nextType⟩

/-- So does a look for nil. -/
lemma orNil (hr : Framed r) : Framed (Reader.orNil r) := by
  intro es rest o h
  rcases Reader.run_orNil_eq_ok.mp h with ⟨rfl, rfl⟩ | ⟨e, es', a, rfl, he, rfl, ha⟩
  · exact ⟨.nil, [], rfl, Reads.orNil_nil⟩
  · obtain ⟨e', used, heq, hread⟩ := hr _ _ _ ha
    obtain ⟨rfl, rfl⟩ := List.cons.inj heq
    exact ⟨e, used, rfl, Reads.orNil_some he hread⟩

lemma readArrayHeader : Framed Reader.readArrayHeader :=
  Framed.of_run Element.arrayHeader Reader.run_readArrayHeader_eq_ok

lemma readMapHeader : Framed Reader.readMapHeader :=
  Framed.of_run Element.mapHeader Reader.run_readMapHeader_eq_ok

end Framed

/-! ## Dynamically typed values -/

/-- Values that are read one after the other were read from the elements of each of them. -/
lemma run_replicate_elements {α : Type} {r : Reader α} {enc : α → List Element}
    (hr : ∀ (es rest : List Element) (a : α), r.run es = .ok (a, rest) → es = enc a ++ rest)
    {n : ℕ} {es rest : List Element} {as : List α}
    (h : (Reader.replicate r n).run es = .ok (as, rest)) :
    as.length = n ∧ es = as.flatMap enc ++ rest := by
  induction n generalizing es as with
  | zero =>
    obtain ⟨rfl, rfl⟩ := Reader.run_pure_eq_ok.mp h
    exact ⟨rfl, rfl⟩
  | succ n ih =>
    simp only [Reader.replicate, Reader.run_bind_eq_ok, Reader.run_pure_eq_ok] at h
    obtain ⟨a, es', ha, as', _, has, rfl, rfl⟩ := h
    obtain ⟨rfl, rfl⟩ := ih has
    refine ⟨rfl, ?_⟩
    rw [hr _ _ _ ha, List.flatMap_cons, List.append_assoc]

/-- The elements of the values of an array, one value after the other. -/
lemma listElements_eq_flatMap (vs : List Value) : listElements vs = vs.flatMap elements := by
  induction vs with
  | nil => rfl
  | cons v vs ih => rw [listElements, List.flatMap_cons, ih]

/-- The elements of the entries of a map, one entry after the other. -/
lemma entryElements_eq_flatMap (es : List (Value × Value)) :
    entryElements es = es.flatMap fun p => p.1.elements ++ p.2.elements := by
  induction es with
  | nil => rfl
  | cons p es ih => rw [entryElements, List.flatMap_cons, ih]

/-- A dynamically typed value was read from its elements. -/
lemma run_readValueBounded {n : ℕ} {es rest : List Element} {v : Value}
    (h : (readValueBounded n).run es = .ok (v, rest)) : es = v.elements ++ rest := by
  induction n generalizing es rest v with
  | zero => cases h
  | succ n ih =>
    rcases es with _ | ⟨e, es⟩
    · cases h
    cases e with
    | arrayHeader k =>
      have hrun : (Value.array <$> Reader.replicate (readValueBounded n) k).run es =
          .ok (v, rest) := h
      rw [Reader.run_map_eq_ok] at hrun
      obtain ⟨vs, hvs, rfl⟩ := hrun
      obtain ⟨rfl, rfl⟩ := run_replicate_elements (fun _ _ _ => ih) hvs
      rw [elements, listElements_eq_flatMap, List.cons_append]
    | mapHeader k =>
      have hrun : (Value.map <$> Reader.replicate (do
          let key ← readValueBounded n
          let value ← readValueBounded n
          return (key, value)) k).run es = .ok (v, rest) := h
      rw [Reader.run_map_eq_ok] at hrun
      obtain ⟨entries, hentries, rfl⟩ := hrun
      have hentry : ∀ (es rest : List Element) (p : Value × Value),
          (do
            let key ← readValueBounded n
            let value ← readValueBounded n
            return (key, value) : Reader (Value × Value)).run es = .ok (p, rest) →
          es = p.1.elements ++ p.2.elements ++ rest := by
        intro es rest p hp
        simp only [Reader.run_bind_eq_ok, Reader.run_pure_eq_ok] at hp
        obtain ⟨key, es', hkey, value, _, hvalue, rfl, rfl⟩ := hp
        rw [ih hkey, ih hvalue, List.append_assoc]
      obtain ⟨rfl, rfl⟩ := run_replicate_elements hentry hentries
      rw [elements, entryElements_eq_flatMap, List.cons_append]
    | _ =>
      cases h
      rfl

/-- A dynamically typed value was read exactly from its elements. -/
lemma run_readValue_eq_ok {es rest : List Element} {v : Value} :
    readValue.run es = .ok (v, rest) ↔ es = v.elements ++ rest := by
  constructor
  · exact fun h => run_readValueBounded (n := es.length) h
  · rintro rfl
    exact readValue_elements v rest

lemma framed_readValue : Framed readValue := by
  intro es rest v h
  rw [run_readValue_eq_ok] at h
  obtain ⟨e, used, hused⟩ := List.exists_cons_of_ne_nil v.elements_ne_nil
  have hread := readValue_elements v
  rw [hused] at h hread
  exact ⟨e, used, h, hread⟩

/-! ## Formatters -/

namespace Formatter

variable {α β κ υ : Type}

/-- The deserializer of `f` consumes an element and looks no further than it reads. -/
def Framed (f : Formatter α) : Prop := MsgPack.Framed f.deserialize

lemma string_framed : string.Framed :=
  MsgPack.Framed.of_run (fun s => (WriteOp.string s).toElement) Reader.run_readString_eq_ok

lemma requiredString_framed : requiredString.Framed := by
  refine MsgPack.Framed.bind string_framed ?_
  rintro (_ | s)
  · exact Local.throw _
  · exact Local.pure s

lemma list_framed {f : Formatter α} (hf : f.Framed) : (list f).Framed :=
  MsgPack.Framed.orNil <| MsgPack.Framed.readArrayHeader.bind fun n => hf.toLocal.replicate n

lemma dictionary_framed [DecidableEq κ] {fk : Formatter κ} {fv : Formatter υ} (hk : fk.Framed)
    (hv : fv.Framed) : (dictionary fk fv).Framed := by
  have hentry : Local (entry fk fv).deserialize :=
    hk.toLocal.bind fun k => hv.toLocal.bind fun v => Local.pure (k, v)
  refine MsgPack.Framed.orNil <| MsgPack.Framed.readMapHeader.bind fun n =>
    (hentry.replicate n).bind fun entries => ?_
  unfold Dictionary.ofEntries
  split_ifs
  · exact Local.pure _
  · exact Local.throw _

end Formatter

namespace Fields

variable {α β : Type}

/-- The deserializer of the fields looks no further than it reads, however many of them are
declared. -/
def Local (fields : Fields β) : Prop := ∀ n, MsgPack.Local (fields.deserialize n)

lemma cons_local {f : Formatter α} {default : α} {rest : Fields β} (hf : f.Framed)
    (hrest : rest.Local) : (cons f default rest).Local := by
  intro n
  cases n with
  | zero => exact (hrest 0).bind fun b => MsgPack.Local.pure (default, b)
  | succ n =>
    exact hf.toLocal.bind fun a => (hrest n).bind fun b => MsgPack.Local.pure (a, b)

end Fields

namespace NamedFields

variable {α β : Type}

/-- The deserializer of every field looks no further than it reads. -/
def Local (fields : NamedFields β) : Prop :=
  ∀ key r, fields.read key = some r → ∀ b, MsgPack.Local (r b)

lemma nil_local : nil.Local := by
  intro key r hr
  cases hr

lemma cons_local {name : String} {f : Formatter α} {default : α} {rest : NamedFields β}
    (hf : f.Framed) (hrest : rest.Local) : (cons name f default rest).Local := by
  intro key r hr b
  simp only [cons] at hr
  split_ifs at hr with hname
  · cases hr
    exact hf.toLocal.map _
  · obtain ⟨r', hr', rfl⟩ := Option.map_eq_some_iff.mp hr
    exact (hrest key r' hr' b.2).map _

/-- Neither does the reader of the entries, which skips those with other names. -/
lemma local_readEntries {read : String → Option (β → Reader β)}
    (hread : ∀ key r, read key = some r → ∀ b, MsgPack.Local (r b)) (n : ℕ) (b : β) :
    MsgPack.Local (readEntries read n b) := by
  induction n generalizing b with
  | zero => exact MsgPack.Local.pure b
  | succ n ih =>
    refine MsgPack.Local.bind (Formatter.string_framed.toLocal) fun key => ?_
    cases hkey : key.bind read with
    | none => exact (MsgPack.Local.skip 1).bind fun _ => ih b
    | some r =>
      obtain ⟨name, -, hname⟩ := Option.bind_eq_some_iff.mp hkey
      exact (hread name r hname b).bind fun b' => ih b'

end NamedFields

namespace Formatter

/-- To look no further than it reads passes from the parts of a class to the class. -/
theorem framed_closed : Closed @Framed @Fields.Local @NamedFields.Local where
  boolean := MsgPack.Framed.of_run Element.boolean Reader.run_readBoolean_eq_ok
  int32 := MsgPack.Framed.of_run (fun n : Int32 => .integer n.toInt) Reader.run_readInt32_eq_ok
  int64 := MsgPack.Framed.of_run (fun n : Int64 => .integer n.toInt) Reader.run_readInt64_eq_ok
  string := string_framed
  requiredString := requiredString_framed
  bytes := MsgPack.Framed.of_run (fun data => (WriteOp.binary data).toElement)
    Reader.run_readBytes_eq_ok
  object := framed_readValue
  wrap := fun _ _ hf => MsgPack.Framed.map _ hf
  nullable := fun hf => MsgPack.Framed.orNil hf
  list := list_framed
  dictionary := dictionary_framed
  nil := MsgPack.Local.skip
  cons := Fields.cons_local
  keyed := fun hfields => MsgPack.Framed.orNil <| MsgPack.Framed.readArrayHeader.bind fun n =>
    (hfields n).bind fun _ => MsgPack.Local.pure _
  namedNil := NamedFields.nil_local
  namedCons := NamedFields.cons_local
  named := fun hfields => MsgPack.Framed.orNil <| MsgPack.Framed.readMapHeader.bind fun n =>
    (NamedFields.local_readEntries hfields n _).bind fun _ => MsgPack.Local.pure _

end Formatter

/-! ## Longer arrays -/

namespace Fields

variable {α β : Type}

/-- Fields that were read from an array are read from a longer one as well, and its further values
are skipped. -/
def Extends (fields : Fields β) : Prop :=
  ∀ (n : ℕ) (es : List Element) (b : β), fields.count ≤ n → Reads (fields.deserialize n) es b →
    ∀ vs : List Value, Reads (fields.deserialize (n + vs.length)) (es ++ listElements vs) b

lemma nil_extends : nil.Extends := by
  intro n es b _ h vs rest
  have hskip : skipFrom n es = .ok [] := by
    have hrun := h []
    rw [List.append_nil] at hrun
    exact Reader.run_skip_eq_ok.mp hrun
  refine Reader.run_skip_eq_ok.mpr ?_
  rw [List.append_assoc, skipFrom_add (skipFrom_append hskip _), List.nil_append]
  exact skipFrom_values vs rest

lemma cons_extends {f : Formatter α} {default : α} {fields : Fields β} (hf : f.Framed)
    (hlocal : fields.Local) (hfields : fields.Extends) : (cons f default fields).Extends := by
  intro n es b hn h vs
  obtain ⟨n, rfl⟩ : ∃ k, n = k + 1 := ⟨n - 1, by
    have : fields.count + 1 ≤ n := hn
    omega⟩
  -- the first field and the others have each consumed a part of the elements
  have hrun := h []
  rw [List.append_nil, run_cons_succ_eq_ok] at hrun
  obtain ⟨es', hfirst, hothers⟩ := hrun
  obtain ⟨used, rfl, hread⟩ := hf.toLocal _ _ _ hfirst
  obtain ⟨used', rfl, hread'⟩ := hlocal n _ _ _ hothers
  have hcount : fields.count ≤ n := Nat.le_of_succ_le_succ hn
  have hextended := hfields n used' b.2 hcount hread' vs
  rw [List.append_nil, List.append_assoc, Nat.add_right_comm]
  exact reads_cons hread hextended

end Fields

/-- Fields that look no further than they read, and that may be followed by others. -/
structure Fields.Growing {β : Type} (fields : Fields β) : Prop where
  toLocal : fields.Local
  longer : fields.Extends

namespace Fields.Growing

variable {α β : Type}

lemma nil : Fields.nil.Growing := ⟨MsgPack.Local.skip, nil_extends⟩

/-- One more field in front of the others. -/
lemma cons {f : Formatter α} {default : α} {fields : Fields β} (hf : f.Framed)
    (hfields : fields.Growing) : (Fields.cons f default fields).Growing :=
  ⟨cons_local hf hfields.toLocal, cons_extends hf hfields.toLocal hfields.longer⟩

end Fields.Growing

/-- A class with integer keys that was read from an array with all of its fields is read from a
longer one as well. -/
theorem Formatter.keyed_extends {α β : Type} {fields : Fields β} {toFields : α → β}
    {ofFields : β → α} (hfields : fields.Growing) {n : ℕ} {es : List Element} {o : Option α}
    (hn : fields.count ≤ n)
    (h : (keyed fields toFields ofFields).deserialize.run (.arrayHeader n :: es) = .ok (o, []))
    (vs : List Value) : Reads (keyed fields toFields ofFields).deserialize
      (.arrayHeader (n + vs.length) :: (es ++ listElements vs)) o := by
  rcases Formatter.run_keyed_eq_ok.mp h with ⟨hnil, -⟩ | ⟨n', es', b, heq, rfl, hb⟩
  · cases hnil
  · obtain ⟨hn', rfl⟩ := List.cons.inj heq
    cases hn'
    obtain ⟨used, rfl, hread⟩ := hfields.toLocal n _ _ _ hb
    rw [List.append_nil]
    exact reads_keyed (hfields.longer n used b hn hread vs)

/-! ## Longer buffers -/

/-- The elements of a buffer are the first ones of a longer buffer. -/
theorem WireFormat.elements_append (F : WireFormat) (b s : List UInt8) :
    ∃ es, F.elements (b ++ s) = F.elements b ++ es := by
  -- by induction on a bound for the number of bytes, of which every element takes one
  have key : ∀ k : ℕ, ∀ b : List UInt8, b.length ≤ k →
      ∃ es, F.elements (b ++ s) = F.elements b ++ es := by
    intro k
    induction k with
    | zero =>
      intro b hb
      obtain rfl := List.eq_nil_of_length_eq_zero (Nat.le_zero.mp hb)
      exact ⟨F.elements s, rfl⟩
    | succ k ih =>
      intro b hb
      cases hd : F.decode b with
      | none =>
        rw [F.elements_of_decode_eq_none hd]
        exact ⟨_, rfl⟩
      | some p =>
        obtain ⟨e, r⟩ := p
        have hlt := F.decode_length_lt hd
        obtain ⟨es, hes⟩ := ih r (by omega)
        rw [F.elements_of_decode hd, F.elements_of_decode (F.decode_append s hd)]
        by_cases harity : e.arity ≤ r.length
        · have hlonger : e.arity ≤ (r ++ s).length := by
            rw [List.length_append]
            omega
          rw [if_pos harity, if_pos hlonger, hes]
          exact ⟨es, rfl⟩
        · rw [if_neg harity]
          exact ⟨_, rfl⟩
  exact key b.length b (Nat.le_refl _)

end MsgPack
