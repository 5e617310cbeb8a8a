import Mathlib.Data.List.TakeWhile
import Mathlib.Tactic.Common

/-!
# Statements with literals

A statement is a text that carries values as literals, each between two quotes.  Whoever reads it
finds the literals by their quotes; so a value that has quotes of its own may end its literal too
early, or swallow what follows it.  This file is about texts that are put together from pieces of
code and values: `lex_render` says when they are read as the pieces that they were made of.

Dialects differ in whether there is an escape character, so that a dialect is a parameter.
-/

namespace Statement

variable {α : Type*}

/-- How literals are written: between quotes.  In a literal a quote is doubled, and the escape
character, if there is one, takes away the meaning of the character after it. -/
structure Dialect (α : Type*) where
  quote : α
  escape : Option α

/-- A token of a statement. -/
inductive Token (α : Type*) where
  | code (c : α)
  | literal (value : List α)
  deriving DecidableEq

/-- Where the lexer is: outside of literals, or in one of which it has read a part, or there after a
quote or after an escape character. -/
inductive Mode (α : Type*) where
  | code
  | literal (read : List α)
  | quoted (read : List α)
  | escaped (read : List α)

/-- What comes early enough in a text belongs to its front. -/
lemma mem_of_append_eq {p u x s : List α} {c : α} (h : u ++ c :: x = p ++ s)
    (hlt : u.length < p.length) : c ∈ p := by
  have hat : (p ++ s)[u.length]? = some c := by
    rw [← h]
    simp
  rw [List.getElem?_append_left hlt] at hat
  exact List.mem_of_getElem? hat

variable [DecidableEq α] (d : Dialect α)

/-- A character that has a meaning in a literal. -/
def Dialect.Special (c : α) : Prop := c = d.quote ∨ d.escape = some c

instance (c : α) : Decidable (d.Special c) := inferInstanceAs (Decidable (_ ∨ _))

/-- A value without characters that have a meaning in a literal. -/
def Dialect.Plain (w : List α) : Prop := ∀ c ∈ w, ¬ d.Special c

instance (w : List α) : Decidable (d.Plain w) := inferInstanceAs (Decidable (∀ c ∈ w, _))

omit [DecidableEq α] in
/-- A value is plain if its parts are. -/
lemma Dialect.plain_append {d : Dialect α} {w w' : List α} :
    d.Plain (w ++ w') ↔ d.Plain w ∧ d.Plain w' := List.forall_mem_append

/-- The tokens of a statement.  A literal that does not end is an error. -/
@[simp]
def lex : Mode α → List α → Option (List (Token α))
  | .code, [] => some []
  | .literal _, [] => none
  | .quoted read, [] => some [.literal read]
  | .escaped _, [] => none
  | .code, c :: s =>
    if c = d.quote then lex (.literal []) s else (lex .code s).map (.code c :: ·)
  | .literal read, c :: s =>
    if c = d.quote then lex (.quoted read) s
    else if d.escape = some c then lex (.escaped read) s
    else lex (.literal (read ++ [c])) s
  | .quoted read, c :: s =>
    if c = d.quote then lex (.literal (read ++ [c])) s
    else (lex .code s).map fun ts => .literal read :: .code c :: ts
  | .escaped read, c :: s => lex (.literal (read ++ [c])) s

/-! ## Steps of the lexer -/

section Steps

variable {d} {c : α} {v w s : List α} {ts : List (Token α)}

/-- A quote outside of literals opens one. -/
lemma lex_open (s : List α) : lex d .code (d.quote :: s) = lex d (.literal []) s := by
  rw [lex, if_pos rfl]

/-- Code without quotes is passed on. -/
lemma lex_code_append (h : ∀ c ∈ w, c ≠ d.quote) (s : List α) :
    lex d .code (w ++ s) = (lex d .code s).map (w.map .code ++ ·) := by
  induction w with
  | nil => simp
  | cons c w ih =>
    obtain ⟨hc, hw⟩ := List.forall_mem_cons.mp h
    rw [List.cons_append, lex, if_neg hc, ih hw, Option.map_map]
    rfl

/-- A character without meaning is read as itself. -/
lemma lex_literal_cons (hc : ¬ d.Special c) (v s : List α) :
    lex d (.literal v) (c :: s) = lex d (.literal (v ++ [c])) s := by
  rw [lex, if_neg fun h => hc (.inl h), if_neg fun h => hc (.inr h)]

/-- A doubled quote is read as one. -/
lemma lex_literal_quote (v s : List α) :
    lex d (.literal v) (d.quote :: d.quote :: s) = lex d (.literal (v ++ [d.quote])) s := by
  rw [lex, if_pos rfl, lex, if_pos rfl]

/-- A single quote ends the literal. -/
lemma lex_literal_close (hc : c ≠ d.quote) (v s : List α) :
    lex d (.literal v) (d.quote :: c :: s) =
      (lex d .code (c :: s)).map (.literal v :: ·) := by
  have hcode : lex d .code (c :: s) = (lex d .code s).map (.code c :: ·) := by
    rw [lex, if_neg hc]
  rw [hcode, Option.map_map, lex, if_pos rfl, lex, if_neg hc]
  rfl

/-- An escaped character is read as itself. -/
lemma lex_literal_escape {e : α} (he : d.escape = some e) (hq : e ≠ d.quote) (v s : List α) :
    lex d (.literal v) (e :: c :: s) = lex d (.literal (v ++ [c])) s := by
  rw [lex, if_neg hq, if_pos he, lex]

/-- A plain value is read as itself. -/
lemma lex_literal_append (h : d.Plain w) (v s : List α) :
    lex d (.literal v) (w ++ s) = lex d (.literal (v ++ w)) s := by
  induction w generalizing v with
  | nil => simp
  | cons c w ih =>
    obtain ⟨hc, hw⟩ := List.forall_mem_cons.mp h
    rw [List.cons_append, lex_literal_cons hc, ih hw, List.append_assoc]
    rfl

/-- The part of a literal that a mode has read. -/
def Mode.read : Mode α → Option (List α)
  | code => none
  | literal read | quoted read | escaped read => some read

/-- What was read of a literal is the beginning of its value. -/
lemma exists_literal {m : Mode α} (hm : m.read = some v) (h : lex d m s = some ts) :
    ∃ u ts', ts = .literal (v ++ u) :: ts' := by
  induction s generalizing m v with
  | nil =>
    cases m with
    | code => cases hm
    | literal | escaped => cases h
    | quoted read =>
      cases hm
      cases h
      exact ⟨[], [], by simp⟩
  | cons c s ih =>
    -- what is read next comes after what was read before
    have hnext : lex d (.literal (v ++ [c])) s = some ts →
        ∃ u ts', ts = .literal (v ++ u) :: ts' := by
      intro hs
      obtain ⟨u, ts', rfl⟩ := ih (m := .literal (v ++ [c])) rfl hs
      exact ⟨c :: u, ts', by simp⟩
    cases m with
    | code => cases hm
    | literal read =>
      cases hm
      rw [lex] at h
      split_ifs at h
      · exact ih (m := .quoted v) rfl h
      · exact ih (m := .escaped v) rfl h
      · exact hnext h
    | quoted read =>
      cases hm
      rw [lex] at h
      split_ifs at h
      · exact hnext h
      · obtain ⟨ts', -, rfl⟩ := Option.map_eq_some_iff.mp h
        exact ⟨[], .code c :: ts', by simp⟩
    | escaped read =>
      cases hm
      exact hnext h

end Steps

/-! ## Values with special characters -/

section Special

variable {d} {c : α} {u v w x s : List α} {ts : List (Token α)}

/-- A value that begins with a special character was read from a pair of them. -/
lemma exists_pair (hc : d.Special c)
    (h : lex d (.literal v) s = some (.literal (v ++ c :: x) :: ts)) :
    ∃ c₁ c₂ s', s = c₁ :: c₂ :: s' ∧ d.Special c₁ ∧ d.Special c₂ ∧
      lex d (.literal (v ++ [c])) s' = some (.literal (v ++ c :: x) :: ts) := by
  -- the next character of the value is the one that was read last
  have hread : ∀ {a : α} {t : List α}, lex d (.literal (v ++ [a])) t =
      some (.literal (v ++ c :: x) :: ts) → a = c := by
    intro a t ht
    obtain ⟨u, ts', heq⟩ := exists_literal (m := .literal (v ++ [a])) rfl ht
    simp only [List.cons.injEq, Token.literal.injEq, List.append_assoc, List.append_cancel_left_eq,
      List.singleton_append] at heq
    exact heq.1.1.symm
  cases s with
  | nil => cases h
  | cons c₁ s =>
    rw [lex] at h
    split_ifs at h with hquote hescape
    · cases s with
      | nil =>
        have heq := congrArg List.head? (Option.some.inj h)
        simp at heq
      | cons c₂ s =>
        rw [lex] at h
        split_ifs at h with hquote'
        · obtain rfl := hread h
          exact ⟨c₁, c₂, s, rfl, .inl hquote, hc, h⟩
        · obtain ⟨ts', -, heq⟩ := Option.map_eq_some_iff.mp h
          simp at heq
    · cases s with
      | nil => cases h
      | cons c₂ s =>
        rw [lex] at h
        obtain rfl := hread h
        exact ⟨c₁, c₂, s, rfl, .inr hescape, hc, h⟩
    · obtain rfl := hread h
      rcases hc with hc | hc
      · exact absurd hc hquote
      · exact absurd hc hescape

/-- A value that begins with special characters was read from twice as many. -/
lemma exists_pairs (hu : ∀ c ∈ u, d.Special c)
    (h : lex d (.literal v) s = some (.literal (v ++ (u ++ x)) :: ts)) :
    ∃ p s', s = p ++ s' ∧ p.length = 2 * u.length ∧ (∀ c ∈ p, d.Special c) ∧
      lex d (.literal (v ++ u)) s' = some (.literal (v ++ u ++ x) :: ts) := by
  induction u generalizing v s with
  | nil => exact ⟨[], s, rfl, rfl, by simp, by simpa using h⟩
  | cons c u ih =>
    obtain ⟨hc, hu⟩ := List.forall_mem_cons.mp hu
    rw [List.cons_append] at h
    obtain ⟨c₁, c₂, s₁, rfl, hc₁, hc₂, hs₁⟩ := exists_pair hc h
    have hassoc : v ++ c :: (u ++ x) = v ++ [c] ++ (u ++ x) := by simp
    rw [hassoc] at hs₁
    obtain ⟨p, s', rfl, hlength, hp, hs'⟩ := ih hu hs₁
    refine ⟨c₁ :: c₂ :: p, s', rfl, ?_, ?_, by simpa using hs'⟩
    · simp only [List.length_cons, hlength]
      omega
    · simp only [List.forall_mem_cons]
      exact ⟨hc₁, hc₂, hp⟩

/-- After the value of a literal comes its quote. -/
lemma exists_quote (h : lex d (.literal v) s = some (.literal v :: ts)) :
    ∃ s', s = d.quote :: s' := by
  cases s with
  | nil => cases h
  | cons c s =>
    have hlonger : ∀ {a : α} {m : Mode α} {t : List α}, m.read = some (v ++ [a]) →
        lex d m t ≠ some (.literal v :: ts) := by
      intro a m t hm ht
      obtain ⟨u, ts', heq⟩ := exists_literal hm ht
      simp at heq
    rw [lex] at h
    split_ifs at h with hquote hescape
    · exact ⟨s, by rw [hquote]⟩
    · cases s with
      | nil => cases h
      | cons c' s =>
        rw [lex] at h
        exact absurd h (hlonger rfl)
    · exact absurd h (hlonger rfl)

/-- Only a plain value is read as itself between its quotes, if no special character follows. -/
theorem plain_of_lex (hc : ¬ d.Special c)
    (h : lex d (.literal v) (w ++ d.quote :: c :: s) = some (.literal (v ++ w) :: ts)) :
    d.Plain w := by
  induction w generalizing v with
  | nil => simp [Dialect.Plain]
  | cons a w ih =>
    by_cases ha : d.Special a
    · -- the special characters at the front stand for half as many
      exfalso
      obtain ⟨u, x, huw, hu, hx⟩ : ∃ u x, a :: w = u ++ x ∧ (∀ b ∈ u, d.Special b) ∧
          ∀ b y, x = b :: y → ¬ d.Special b := by
        refine ⟨(a :: w).takeWhile (d.Special ·), (a :: w).dropWhile (d.Special ·),
          List.takeWhile_append_dropWhile.symm, ?_, ?_⟩
        · intro b hb
          simpa using List.mem_takeWhile_imp hb
        · intro b y hdrop hb
          have hhead := List.head?_dropWhile_not (d.Special ·) (a :: w)
          rw [hdrop] at hhead
          simp [hb] at hhead
      have hpos : 0 < u.length := by
        cases u with
        | nil => exact absurd ha (hx a w huw.symm)
        | cons => simp
      rw [huw] at h
      obtain ⟨p, s', htext, hlength, hp, hs'⟩ := exists_pairs hu h
      cases x with
      | cons b y =>
        have hmem : b ∈ p := by
          refine mem_of_append_eq (u := u) (x := y ++ d.quote :: c :: s) (s := s') ?_ (by omega)
          simpa using htext
        exact hx b y rfl (hp b hmem)
      | nil =>
        rw [List.append_nil] at hs'
        obtain ⟨s'', rfl⟩ := exists_quote hs'
        have hmem : c ∈ p ++ [d.quote] := by
          refine mem_of_append_eq (u := u ++ [d.quote]) (x := s) (s := s'') ?_ ?_
          · simpa using htext
          · simp only [List.length_append, List.length_singleton]
            omega
        rcases List.mem_append.mp hmem with hmem | hmem
        · exact hc (hp c hmem)
        · exact hc (.inl (List.mem_singleton.mp hmem))
    · rw [List.cons_append, lex_literal_cons ha] at h
      refine List.forall_mem_cons.mpr ⟨ha, ih (v := v ++ [a]) ?_⟩
      simpa using h

end Special

/-! ## Encoded values -/

/-- The text stands for the value within a literal. -/
def Dialect.Encodes (text value : List α) : Prop :=
  ∀ v s, lex d (.literal v) (text ++ s) = lex d (.literal (v ++ value)) s

/-- A text stands for one value. -/
lemma Dialect.Encodes.unique {d : Dialect α} {text value value' : List α}
    (h : d.Encodes text value) (h' : d.Encodes text value') : value = value' := by
  have hlex := (h [] [d.quote]).symm.trans (h' [] [d.quote])
  simpa using hlex

/-- Double the characters that are among the given ones. -/
def double (p : α → Bool) (w : List α) : List α := w.flatMap fun c => if p c then [c, c] else [c]

section Encodes

variable {d} {w : List α}

omit [DecidableEq α] in
lemma double_cons (p : α → Bool) (c : α) (w : List α) :
    double p (c :: w) = (if p c then [c, c] else [c]) ++ double p w := List.flatMap_cons

omit [DecidableEq α] in
/-- No character is lost. -/
lemma length_le_double (p : α → Bool) (w : List α) : w.length ≤ (double p w).length := by
  induction w with
  | nil => simp
  | cons c w ih =>
    rw [double_cons]
    split_ifs <;> simp <;> omega

omit [DecidableEq α] in
/-- Only a value that has none of the characters is left as it is. -/
lemma double_eq_self_iff {p : α → Bool} : double p w = w ↔ ∀ c ∈ w, p c = false := by
  induction w with
  | nil => simp [double]
  | cons c w ih =>
    rw [double_cons, List.forall_mem_cons]
    by_cases hc : p c = true
    · -- the value has become longer
      have hlength := length_le_double p w
      have hne : c :: double p w ≠ w := by
        intro heq
        have hlong := congrArg List.length heq
        rw [List.length_cons] at hlong
        omega
      simp [hc, hne]
    · simp only [Bool.not_eq_true] at hc
      simp [hc, ih]

/-- To double the special characters, and others, encodes a value in which the others are
doubled. -/
theorem encodes_double (p : α → Bool) (hp : ∀ c, d.Special c → p c = true) (w : List α) :
    d.Encodes (double p w) (double (fun c => p c && !decide (d.Special c)) w) := by
  induction w with
  | nil =>
    intro v s
    simp [double]
  | cons c w ih =>
    intro v s
    rw [double_cons, double_cons, List.append_assoc]
    by_cases hc : d.Special c
    · -- the pair is read as one character
      have hpair : lex d (.literal v) (c :: c :: (double p w ++ s)) =
          lex d (.literal (v ++ [c])) (double p w ++ s) := by
        by_cases hquote : c = d.quote
        · rw [hquote, lex_literal_quote]
        · exact lex_literal_escape (hc.resolve_left hquote) hquote v _
      simp only [hp c hc, hc, decide_true, Bool.not_true, Bool.and_false, if_true, List.cons_append,
        List.nil_append, Bool.false_eq_true, if_false]
      rw [hpair, ih]
      simp
    · have hplain : d.Plain (if p c then [c, c] else [c]) := by
        intro b hb
        have hbc : b = c := by
          split_ifs at hb <;> simpa using hb
        rwa [hbc]
      simp only [hc, decide_false, Bool.not_false, Bool.and_true]
      rw [lex_literal_append hplain, ih, List.append_assoc]

/-- To double the special characters, and others, encodes a value if and only if it has none of the
others. -/
theorem encodes_double_iff (p : α → Bool) (hp : ∀ c, d.Special c → p c = true) (w : List α) :
    d.Encodes (double p w) w ↔ ∀ c ∈ w, p c = true → d.Special c := by
  have hread := encodes_double p hp w
  have hself : d.Encodes (double p w) w ↔
      double (fun c => p c && !decide (d.Special c)) w = w := by
    constructor
    · exact fun h => hread.unique h
    · intro heq
      rwa [heq] at hread
  rw [hself, double_eq_self_iff]
  refine forall₂_congr fun c _ => ?_
  cases p c <;> simp

end Encodes

/-! ## Templates -/

/-- A piece of a statement: code, or a literal.  The value of a literal is written as it is, or as a
text that stands for it. -/
inductive Piece (α : Type*) where
  | code (s : List α)
  | raw (value : List α)
  | encoded (text value : List α)

/-- The statement that pieces are put together to. -/
def render : List (Piece α) → List α
  | [] => []
  | .code s :: ps => s ++ render ps
  | .raw value :: ps => d.quote :: value ++ d.quote :: render ps
  | .encoded text _ :: ps => d.quote :: text ++ d.quote :: render ps

/-- The tokens that the pieces are meant to be. -/
def meant : List (Piece α) → List (Token α)
  | [] => []
  | .code s :: ps => s.map .code ++ meant ps
  | .raw value :: ps | .encoded _ value :: ps => .literal value :: meant ps

/-- A literal is followed by code that begins with a character without meaning. -/
def Followed : List (Piece α) → Prop
  | .code (c :: _) :: _ => ¬ d.Special c
  | _ => False

/-- The code of the pieces has no quotes, literals are followed by code, and encoded texts stand for
a value, whether it is the one that is meant or not. -/
def Template : List (Piece α) → Prop
  | [] => True
  | .code s :: ps => (∀ c ∈ s, c ≠ d.quote) ∧ Template ps
  | .raw _ :: ps => Followed d ps ∧ Template ps
  | .encoded text _ :: ps => (∃ read, d.Encodes text read) ∧ Followed d ps ∧ Template ps

section Templates

variable {d} {ps : List (Piece α)} {text value : List α}

omit [DecidableEq α] in
/-- What follows a literal begins with a character without meaning. -/
lemma exists_render_of_followed (h : Followed d ps) :
    ∃ c s, render d ps = c :: s ∧ ¬ d.Special c := by
  cases ps with
  | nil => exact h.elim
  | cons p ps =>
    cases p with
    | code s =>
      cases s with
      | nil => exact h.elim
      | cons c s => exact ⟨c, s ++ render d ps, rfl, h⟩
    | raw | encoded => exact h.elim

/-- A literal whose text stands for its value is read as the value. -/
lemma lex_literal_of_encodes (htext : d.Encodes text value) (h : Followed d ps) :
    lex d .code (d.quote :: text ++ d.quote :: render d ps) =
      (lex d .code (render d ps)).map (.literal value :: ·) := by
  obtain ⟨c, s, hrender, hc⟩ := exists_render_of_followed h
  rw [hrender, List.cons_append, lex_open, htext, lex_literal_close fun hquote => hc (.inl hquote)]
  rfl

/-- A statement that is put together from pieces is read as these pieces if and only if the values
that are written as they are have no characters that mean something in a literal, and the encoded
texts stand for the values that are meant. -/
theorem lex_render (h : Template d ps) :
    lex d .code (render d ps) = some (meant ps) ↔
      (∀ w, .raw w ∈ ps → d.Plain w) ∧
        ∀ text value, .encoded text value ∈ ps → d.Encodes text value := by
  have hmap : ∀ {t : Token α} {ts : List (Token α)} {o : Option (List (Token α))},
      o.map (t :: ·) = some (t :: ts) ↔ o = some ts := by
    intro t ts o
    cases o <;> simp
  induction ps with
  | nil => simp [render, meant, lex]
  | cons p ps ih =>
    have hrest : Template d ps → (lex d .code (render d ps) = some (meant ps) ↔
        (∀ w, .raw w ∈ ps → d.Plain w) ∧
          ∀ text value, .encoded text value ∈ ps → d.Encodes text value) := ih
    cases p with
    | code s =>
      rw [render, meant, lex_code_append h.1]
      have happend : (lex d .code (render d ps)).map (s.map Token.code ++ ·) =
          some (s.map Token.code ++ meant ps) ↔ lex d .code (render d ps) = some (meant ps) := by
        cases lex d .code (render d ps) <;> simp
      rw [happend, hrest h.2]
      simp
    | raw w =>
      obtain ⟨hfollowed, htemplate⟩ := h
      rw [render, meant]
      constructor
      · intro hlex
        obtain ⟨c, s, hrender, hc⟩ := exists_render_of_followed hfollowed
        have hw : d.Plain w := by
          rw [hrender, List.cons_append, lex_open] at hlex
          exact plain_of_lex (v := []) hc hlex
        rw [lex_literal_of_encodes (lex_literal_append hw) hfollowed, hmap, hrest htemplate] at hlex
        simpa [hw] using hlex
      · rintro ⟨hplain, hencodes⟩
        have hw := hplain w List.mem_cons_self
        rw [lex_literal_of_encodes (lex_literal_append hw) hfollowed, hmap, hrest htemplate]
        exact ⟨fun w' hw' => hplain w' (List.mem_cons_of_mem _ hw'),
          fun text value hmem => hencodes text value (List.mem_cons_of_mem _ hmem)⟩
    | encoded text value =>
      obtain ⟨⟨read, htext⟩, hfollowed, htemplate⟩ := h
      rw [render, meant, lex_literal_of_encodes htext hfollowed]
      constructor
      · intro hlex
        obtain ⟨ts, hts, heq⟩ := Option.map_eq_some_iff.mp hlex
        cases heq
        obtain ⟨hplain, hencodes⟩ := (hrest htemplate).mp hts
        refine ⟨fun w hw => ?_, fun text' value' hmem => ?_⟩
        · exact hplain w ((List.mem_cons.mp hw).resolve_left (by simp))
        · rcases List.mem_cons.mp hmem with heq | hmem
          · cases heq
            exact htext
          · exact hencodes text' value' hmem
      · rintro ⟨hplain, hencodes⟩
        -- the text stands for one value only
        obtain rfl := htext.unique (hencodes text value List.mem_cons_self)
        rw [hmap, hrest htemplate]
        exact ⟨fun w hw => hplain w (List.mem_cons_of_mem _ hw),
          fun text' value' hmem => hencodes text' value' (List.mem_cons_of_mem _ hmem)⟩

end Templates

end Statement
