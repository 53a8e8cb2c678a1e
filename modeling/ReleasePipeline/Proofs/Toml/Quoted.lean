import Mathlib.Data.List.TakeWhile
import ReleasePipeline.Toml.Quoted
import ReleasePipeline.Toml.Writer

/-
  This file proves that every text can be read back from the
  string it is written as, whichever form the writer takes.
  The forms without escapes are those with escapes in which
  there is nothing to escape, so that there are three cases:
  basic strings on one line, multi-line ones, and literals.

  Main declarations:
    * `Toml.takeBasic_escapeChars`
    * `Toml.takeMultiBasic_escapeChars`
    * `Toml.takeMultiLiteral_append`
    * `Toml.takeString?_written`
-/

------------------------------------------------------------
-- Characters
------------------------------------------------------------

namespace ReleasePipeline

namespace Toml

theorem isPlain_of_not_isControl
    {c : Char}
    (hControl : isControl c = false)
    (hNewline : c ≠ '\n') :
    isPlain c = true := by
  unfold isControl at hControl
  unfold isPlain
  simp only [Bool.or_eq_false_iff, Bool.and_eq_false_iff,
    decide_eq_false_iff_not, bne_eq_false_iff_eq,
    beq_eq_false_iff_ne] at hControl
  rcases hControl with ⟨hLow | hEq, hDelete⟩
  · have hHigh : 0x20 ≤ c.toNat := by omega
    simp [hHigh, hDelete]
  · exact absurd hEq hNewline

/- A return is a control character, unlike a newline. -/
theorem ne_return_of_not_isControl
    {c : Char}
    (hControl : isControl c = false) :
    c ≠ '\x0D' := by
  intro hEq
  rw [hEq] at hControl
  exact absurd hControl (by decide)

------------------------------------------------------------
-- Escapes
------------------------------------------------------------

theorem value?_upperDigit :
    ∀ n, n < 16 → Hex.value? (upperDigit n) = some n := by
  decide

/- Two digits stand for a number below two hundred and fifty-six. -/
theorem hexEscape?_upperDigits
    {c : Char}
    (hSmall : c.toNat < 256)
    (rest : List Char) :
    hexEscape? 4
        ('0' :: '0' :: upperDigit (c.toNat / 16) ::
          upperDigit (c.toNat % 16) :: rest) =
      some (c, 5) := by
  have hHigh := value?_upperDigit (c.toNat / 16) (by omega)
  have hLow := value?_upperDigit (c.toNat % 16) (by omega)
  have hZero : Hex.value? '0' = some 0 := by decide
  have hSum :
      ((0 * 16 + 0) * 16 + 0) * 16 + c.toNat / 16 = c.toNat / 16 := by
    omega
  have hNumber :
      c.toNat / 16 * 16 + c.toNat % 16 = c.toNat := by
    omega
  have hValid : c.toNat.isValidChar := c.valid
  unfold hexEscape?
  simp only [List.take_succ_cons, List.take_zero, List.length_cons,
    List.length_nil, Nat.reduceAdd, ↓reduceIte, Hex.number?,
    Hex.numberFrom?, hZero, hHigh, hLow, hSum, hNumber, hValid,
    Char.ofNat_toNat]

/-
  The escape of a character is a backslash and something that
  stands for the character.
-/
theorem escapeOf_eq
    {c : Char}
    (hEscape : (isControl c || c = '\\') = true) :
    ∃ e, escapeOf c = '\\' :: e ∧
      (∀ rest, escape? (e ++ rest) = some (c, e.length)) ∧
      ∀ rest, endsLine (e ++ rest) = false := by
  unfold escapeOf
  split
  · next hEq =>
      subst hEq
      exact ⟨['b'], rfl, fun _ => rfl, fun _ => rfl⟩
  split
  · next hEq =>
      subst hEq
      exact ⟨['t'], rfl, fun _ => rfl, fun _ => rfl⟩
  split
  · next hEq =>
      subst hEq
      exact ⟨['f'], rfl, fun _ => rfl, fun _ => rfl⟩
  split
  · next hEq =>
      subst hEq
      exact ⟨['r'], rfl, fun _ => rfl, fun _ => rfl⟩
  split
  · next hEq =>
      subst hEq
      exact ⟨['\\'], rfl, fun _ => rfl, fun _ => rfl⟩
  · next hBackslash =>
      have hSmall : c.toNat < 256 := by
        simp only [Bool.or_eq_true, decide_eq_true_eq, hBackslash,
          or_false, isControl, Bool.and_eq_true, beq_iff_eq]
          at hEscape
        omega
      refine ⟨_, rfl, ?_, fun _ => rfl⟩
      intro rest
      exact hexEscape?_upperDigits hSmall rest

------------------------------------------------------------
-- Basic Strings
------------------------------------------------------------

theorem takeBasic_skip (xs ys : List Char) :
    takeBasic xs.length (xs ++ ys) = takeBasic 0 ys := by
  induction xs with
  | nil => rfl
  | cons x xs ih =>
      rw [List.length_cons, List.cons_append, takeBasic, ih]

theorem takeBasic_escape
    {c : Char}
    {e : List Char}
    (ys : List Char)
    (hRead : escape? (e ++ ys) = some (c, e.length)) :
    takeBasic 0 ('\\' :: (e ++ ys)) = consTaken c (takeBasic 0 ys) := by
  rw [takeBasic, if_neg (by decide), if_pos rfl, hRead]
  dsimp only
  rw [takeBasic_skip]

/- A basic string holds any text of one line. -/
theorem takeBasic_escapeChars
    {cs : List Char}
    (hLine : '\n' ∉ cs)
    (run : Nat)
    (rest : List Char) :
    takeBasic 0 (escapeChars 0 run cs ++ '"' :: rest) =
      some (cs, rest) := by
  induction cs generalizing run with
  | nil => rfl
  | cons c cs ih =>
      have hTail : '\n' ∉ cs :=
        fun hMem => hLine (List.mem_cons_of_mem c hMem)
      have hHead : c ≠ '\n' := by
        intro hEq
        exact hLine (hEq ▸ List.mem_cons_self)
      have hRest := congrArg (consTaken c) (ih hTail 0)
      rw [escapeChars]
      by_cases hQuote : c = '"'
      · subst hQuote
        rw [if_pos rfl, if_neg (Nat.not_lt_zero run)]
        have hEscape :=
          takeBasic_escape (e := ['"'])
            (escapeChars 0 0 cs ++ '"' :: rest) rfl
        exact hEscape.trans hRest
      · rw [if_neg hQuote]
        by_cases hEscape : (isControl c || c = '\\') = true
        · rcases escapeOf_eq hEscape with ⟨e, hForm, hRead, -⟩
          rw [if_pos hEscape, hForm, List.append_assoc,
            List.cons_append, takeBasic_escape _ (hRead _)]
          exact hRest
        · rw [if_neg hEscape]
          simp only [Bool.or_eq_true, decide_eq_true_eq, not_or,
            Bool.not_eq_true] at hEscape
          have hPlain := isPlain_of_not_isControl hEscape.1 hHead
          rw [List.cons_append, takeBasic, if_neg hQuote,
            if_neg hEscape.2, if_pos hPlain]
          exact hRest

------------------------------------------------------------
-- Closing Quotes
------------------------------------------------------------

variable {quote : Char}
variable {rest : List Char}

/- Quotes right before the closing ones belong to the text. -/
theorem closing?_of_quotes
    {xs : List Char}
    (hQuotes : ∀ c ∈ xs, c = quote)
    (hShort : xs.length ≤ 2)
    (hRest : rest.head? ≠ some quote) :
    closing? quote (xs ++ quote :: quote :: quote :: rest) =
      some (xs, rest) := by
  have hEnd : rest.takeWhile (· == quote) = [] := by
    cases rest with
    | nil => rfl
    | cons c cs =>
        have hHead : ¬ (c == quote) = true := by simpa using hRest
        exact List.takeWhile_cons_of_neg hHead
  have hTake :
      (xs ++ quote :: quote :: quote :: rest).takeWhile (· == quote) =
        xs ++ [quote, quote, quote] := by
    rw [List.takeWhile_append_of_pos]
    · simp [hEnd]
    · simpa using hQuotes
  have hSame : xs = List.replicate xs.length quote :=
    List.eq_replicate_iff.mpr ⟨rfl, hQuotes⟩
  have hOwn : min (xs.length + 3 - 3) 2 = xs.length := by omega
  unfold closing?
  rw [hTake]
  simp only [List.length_append, List.length_cons, List.length_nil,
    Nat.zero_add, Nat.reduceAdd]
  rw [if_neg (by omega), hOwn, ← hSame, List.drop_append,
    List.drop_eq_nil_of_le (by omega)]
  simp

theorem closing?_tripled
    (hRest : rest.head? ≠ some quote) :
    closing? quote (quote :: quote :: quote :: rest) =
      some ([], rest) := by
  have hNone : ∀ c ∈ ([] : List Char), c = quote := by simp
  exact closing?_of_quotes hNone (Nat.zero_le 2) hRest

/- Two quotes or fewer close nothing if something follows. -/
theorem closing?_of_other
    {xs : List Char}
    {x : Char}
    (hMem : x ∈ xs)
    (hOther : x ≠ quote)
    (hShort : (xs.takeWhile (· == quote)).length ≤ 2) :
    closing? quote (xs ++ rest) = none := by
  have hPart : (xs.takeWhile (· == quote)).length ≠ xs.length := by
    intro hEq
    have hWhole :=
      (List.takeWhile_prefix (· == quote) (l := xs)).eq_of_length hEq
    rw [← hWhole] at hMem
    have hAll := List.all_takeWhile (p := (· == quote)) (l := xs)
    have hTest := List.all_eq_true.mp hAll x hMem
    simp [hOther] at hTest
  unfold closing?
  rw [List.takeWhile_append, if_neg hPart]
  dsimp only
  rw [if_pos (by omega)]

/-
  A text that begins with two quotes at most is closed at its
  end, and before only if nothing but quotes is left of it.
-/
theorem closing?_append
    {xs : List Char}
    (hShort : (xs.takeWhile (· == quote)).length ≤ 2)
    (hRest : rest.head? ≠ some quote) :
    closing? quote (xs ++ quote :: quote :: quote :: rest) =
        some (xs, rest) ∧ (∀ c ∈ xs, c = quote) ∨
      closing? quote (xs ++ quote :: quote :: quote :: rest) =
        none := by
  by_cases hQuotes : ∀ c ∈ xs, c = quote
  · have hWhole : xs.takeWhile (· == quote) = xs := by
      rw [List.takeWhile_eq_self_iff]
      simpa using hQuotes
    rw [hWhole] at hShort
    exact .inl ⟨closing?_of_quotes hQuotes hShort hRest, hQuotes⟩
  · rcases not_forall.mp hQuotes with ⟨x, hNot⟩
    rcases Classical.not_imp.mp hNot with ⟨hMem, hOther⟩
    exact .inr (closing?_of_other hMem hOther hShort)

------------------------------------------------------------
-- Multi-Line Basic Strings
------------------------------------------------------------

theorem takeMultiBasic_skip (xs ys : List Char) :
    takeMultiBasic xs.length false (xs ++ ys) =
      takeMultiBasic 0 false ys := by
  induction xs with
  | nil => rfl
  | cons x xs ih =>
      rw [List.length_cons, List.cons_append, takeMultiBasic, ih]

/- An escape begins with its backslash. -/
theorem head?_escapeOf
    {c : Char}
    (hEscape : (isControl c || c = '\\') = true)
    (cs : List Char) :
    ∃ e, escapeOf c ++ cs = '\\' :: e := by
  rcases escapeOf_eq hEscape with ⟨e, hForm, -, -⟩
  exact ⟨e ++ cs, by rw [hForm, List.cons_append]⟩

/- Quotes without escapes never stand more than two in a row. -/
theorem length_takeWhile_escapeChars
    {run : Nat}
    (hRun : run ≤ 2)
    (cs : List Char) :
    ((escapeChars 2 run cs).takeWhile (· == '"')).length ≤ 2 - run := by
  induction cs generalizing run with
  | nil => exact Nat.zero_le _
  | cons c cs ih =>
      rw [escapeChars]
      by_cases hQuote : c = '"'
      · subst hQuote
        rw [if_pos rfl]
        by_cases hMore : run < 2
        · have hNext : run + 1 ≤ 2 := by omega
          have hRest := ih hNext
          rw [if_pos hMore, List.takeWhile_cons_of_pos rfl,
            List.length_cons]
          omega
        · rw [if_neg hMore, List.takeWhile_cons_of_neg (by decide)]
          exact Nat.zero_le _
      · rw [if_neg hQuote]
        by_cases hEscape : (isControl c || c = '\\') = true
        · rcases head?_escapeOf hEscape (escapeChars 2 0 cs) with
            ⟨e, hForm⟩
          rw [if_pos hEscape, hForm,
            List.takeWhile_cons_of_neg (by decide)]
          exact Nat.zero_le _
        · rw [if_neg hEscape,
            List.takeWhile_cons_of_neg (by simpa using hQuote)]
          exact Nat.zero_le _

/- A text that is written as quotes alone consists of them. -/
theorem escapeChars_of_quotes
    {allowed run : Nat}
    {cs : List Char}
    (hQuotes : ∀ x ∈ escapeChars allowed run cs, x = '"') :
    escapeChars allowed run cs = cs := by
  induction cs generalizing run with
  | nil => rfl
  | cons c cs ih =>
      rw [escapeChars] at hQuotes ⊢
      by_cases hQuote : c = '"'
      · rw [if_pos hQuote] at hQuotes ⊢
        by_cases hMore : run < allowed
        · rw [if_pos hMore] at hQuotes ⊢
          rw [ih fun x hx => hQuotes x (List.mem_cons_of_mem c hx)]
        · rw [if_neg hMore] at hQuotes
          have hBackslash := hQuotes '\\' List.mem_cons_self
          exact absurd hBackslash (by decide)
      · rw [if_neg hQuote] at hQuotes ⊢
        by_cases hEscape : (isControl c || c = '\\') = true
        · rcases head?_escapeOf hEscape (escapeChars allowed 0 cs) with
            ⟨e, hForm⟩
          rw [if_pos hEscape, hForm] at hQuotes
          have hBackslash := hQuotes '\\' List.mem_cons_self
          exact absurd hBackslash (by decide)
        · rw [if_neg hEscape] at hQuotes
          exact absurd (hQuotes c List.mem_cons_self) hQuote

theorem takeMultiBasic_escape
    {c : Char}
    {e : List Char}
    (ys : List Char)
    (hRead : escape? (e ++ ys) = some (c, e.length))
    (hLine : endsLine (e ++ ys) = false) :
    takeMultiBasic 0 false ('\\' :: (e ++ ys)) =
      consTaken c (takeMultiBasic 0 false ys) := by
  rw [takeMultiBasic, if_neg (by decide), if_pos rfl, hLine, hRead]
  dsimp only
  rw [if_neg Bool.false_ne_true, takeMultiBasic_skip]

theorem takeMultiBasic_plain
    {c : Char}
    (hQuote : c ≠ '"')
    (hBackslash : c ≠ '\\')
    (hControl : isControl c = false)
    (ys : List Char) :
    takeMultiBasic 0 false (c :: ys) =
      consTaken c (takeMultiBasic 0 false ys) := by
  rw [takeMultiBasic, if_neg hQuote, if_neg hBackslash]
  by_cases hNewline : c = '\n'
  · rw [if_pos hNewline, if_neg Bool.false_ne_true]
  · have hReturn := ne_return_of_not_isControl hControl
    have hPlain := isPlain_of_not_isControl hControl hNewline
    rw [if_neg hNewline, if_neg hReturn, if_neg (by simp),
      if_pos hPlain]

/- A multi-line basic string holds any text. -/
theorem takeMultiBasic_escapeChars
    {run : Nat}
    (hRun : run ≤ 2)
    (cs : List Char)
    (hRest : rest.head? ≠ some '"') :
    takeMultiBasic 0 false
        (escapeChars 2 run cs ++ '"' :: '"' :: '"' :: rest) =
      some (cs, rest) := by
  induction cs generalizing run with
  | nil =>
      rw [escapeChars, List.nil_append, takeMultiBasic, if_pos rfl,
        closing?_tripled hRest]
  | cons c cs ih =>
      have hTail := congrArg (consTaken c) (ih (Nat.zero_le 2))
      rw [escapeChars]
      by_cases hQuote : c = '"'
      · subst hQuote
        rw [if_pos rfl]
        by_cases hMore : run < 2
        · have hNext : run + 1 ≤ 2 := by omega
          have hQuotes := length_takeWhile_escapeChars hNext cs
          have hShort :
              (('"' :: escapeChars 2 (run + 1) cs).takeWhile
                (· == '"')).length ≤ 2 := by
            rw [List.takeWhile_cons_of_pos rfl, List.length_cons]
            omega
          rw [if_pos hMore, List.cons_append, takeMultiBasic,
            if_pos rfl, ← List.cons_append]
          rcases closing?_append hShort hRest with
            ⟨hClosed, hQuotes⟩ | hOpen
          · have hSame :=
              escapeChars_of_quotes fun x hMem =>
                hQuotes x (List.mem_cons_of_mem _ hMem)
            rw [hClosed, hSame]
          · rw [hOpen]
            exact congrArg (consTaken '"') (ih hNext)
        · rw [if_neg hMore]
          have hEscape :=
            takeMultiBasic_escape (e := ['"'])
              (escapeChars 2 0 cs ++ '"' :: '"' :: '"' :: rest) rfl rfl
          exact hEscape.trans hTail
      · rw [if_neg hQuote]
        by_cases hEscape : (isControl c || c = '\\') = true
        · rcases escapeOf_eq hEscape with ⟨e, hForm, hRead, hLine⟩
          rw [if_pos hEscape, hForm, List.append_assoc,
            List.cons_append,
            takeMultiBasic_escape _ (hRead _) (hLine _)]
          exact hTail
        · rw [if_neg hEscape]
          simp only [Bool.or_eq_true, decide_eq_true_eq, not_or,
            Bool.not_eq_true] at hEscape
          rw [List.cons_append,
            takeMultiBasic_plain hQuote hEscape.2 hEscape.1]
          exact hTail

------------------------------------------------------------
-- Texts Without Escapes
------------------------------------------------------------

theorem hasThree_tail
    {c : Char}
    {cs : List Char}
    (hNone : hasThree quote (c :: cs) = false) :
    hasThree quote cs = false := by
  match cs with
  | [] => rfl
  | [_] => rfl
  | a :: b :: cs =>
      rw [hasThree, Bool.or_eq_false_iff] at hNone
      exact hNone.2

theorem hasThree_append
    {xs cs : List Char}
    (hNone : hasThree quote (xs ++ cs) = false) :
    hasThree quote cs = false := by
  induction xs with
  | nil => exact hNone
  | cons x xs ih => exact ih (hasThree_tail hNone)

theorem length_takeWhile_of_hasThree
    {cs : List Char}
    (hNone : hasThree quote cs = false) :
    (cs.takeWhile (· == quote)).length ≤ 2 := by
  match cs with
  | [] => exact Nat.zero_le 2
  | [_] => exact (List.takeWhile_sublist _).length_le.trans (by simp)
  | [_, _] => exact (List.takeWhile_sublist _).length_le
  | a :: b :: c :: cs =>
      rw [hasThree, Bool.or_eq_false_iff] at hNone
      have hFirst := hNone.1
      simp only [List.takeWhile_cons]
      split
      · split
        · split
          · simp_all
          · simp
        · simp
      · simp

/- There is nothing to escape in a text without quotes. -/
theorem escapeChars_of_no_quote
    {cs : List Char}
    (hControl : cs.any isControl = false)
    (hBackslash : '\\' ∉ cs)
    (hQuote : '"' ∉ cs)
    (allowed run : Nat) :
    escapeChars allowed run cs = cs := by
  induction cs generalizing run with
  | nil => rfl
  | cons c cs ih =>
      simp only [List.any_cons, Bool.or_eq_false_iff] at hControl
      simp only [List.mem_cons, not_or] at hBackslash hQuote
      have hPlain : ¬ (isControl c || c = '\\') = true := by
        simp [hControl.1, Ne.symm hBackslash.1]
      rw [escapeChars, if_neg (Ne.symm hQuote.1), if_neg hPlain,
        ih hControl.2 hBackslash.2 hQuote.2]

/- Nor in one that has no three of them in a row. -/
theorem escapeChars_of_no_three
    {cs : List Char}
    (hControl : cs.any isControl = false)
    (hBackslash : '\\' ∉ cs)
    {run : Nat}
    (hRun : run ≤ 2)
    (hThree :
      hasThree '"' (List.replicate run '"' ++ cs) = false) :
    escapeChars 2 run cs = cs := by
  induction cs generalizing run with
  | nil => rfl
  | cons c cs ih =>
      simp only [List.any_cons, Bool.or_eq_false_iff] at hControl
      simp only [List.mem_cons, not_or] at hBackslash
      rw [escapeChars]
      by_cases hQuote : c = '"'
      · subst hQuote
        have hMore : run < 2 := by
          by_contra hFull
          have hTwo : run = 2 := by omega
          subst hTwo
          simp [List.replicate, hasThree] at hThree
        have hShift :
            List.replicate run '"' ++ '"' :: cs =
              List.replicate (run + 1) '"' ++ cs := by
          rw [List.replicate_succ', List.append_assoc]
          rfl
        rw [hShift] at hThree
        rw [if_pos rfl, if_pos hMore,
          ih hControl.2 hBackslash.2 (by omega) hThree]
      · have hPlain : ¬ (isControl c || c = '\\') = true := by
          simp [hControl.1, Ne.symm hBackslash.1]
        have hRest : hasThree '"' cs = false :=
          hasThree_tail (hasThree_append hThree)
        rw [if_neg hQuote, if_neg hPlain,
          ih hControl.2 hBackslash.2 (Nat.zero_le 2) hRest]

------------------------------------------------------------
-- Literal Strings
------------------------------------------------------------

/- A literal string holds a text without its quote. -/
theorem takeLiteral_append
    {cs : List Char}
    (hControl : cs.any isControl = false)
    (hLine : '\n' ∉ cs)
    (hQuote : '\'' ∉ cs)
    (rest : List Char) :
    takeLiteral (cs ++ '\'' :: rest) = some (cs, rest) := by
  induction cs with
  | nil => rfl
  | cons c cs ih =>
      simp only [List.any_cons, Bool.or_eq_false_iff] at hControl
      simp only [List.mem_cons, not_or] at hLine hQuote
      have hPlain :=
        isPlain_of_not_isControl hControl.1 (Ne.symm hLine.1)
      rw [List.cons_append, takeLiteral, if_neg (Ne.symm hQuote.1),
        if_pos hPlain, ih hControl.2 hLine.2 hQuote.2]
      rfl

/- A multi-line one holds a text without three in a row. -/
theorem takeMultiLiteral_append
    {cs : List Char}
    (hControl : cs.any isControl = false)
    (hThree : hasThree '\'' cs = false)
    (hRest : rest.head? ≠ some '\'') :
    takeMultiLiteral (cs ++ '\'' :: '\'' :: '\'' :: rest) =
      some (cs, rest) := by
  induction cs with
  | nil =>
      rw [List.nil_append, takeMultiLiteral, if_pos rfl,
        closing?_tripled hRest]
  | cons c cs ih =>
      have hShort := length_takeWhile_of_hasThree hThree
      simp only [List.any_cons, Bool.or_eq_false_iff] at hControl
      have hIh := ih hControl.2 (hasThree_tail hThree)
      rw [List.cons_append, takeMultiLiteral]
      by_cases hQuote : c = '\''
      · rw [if_pos hQuote, ← List.cons_append]
        rcases closing?_append hShort hRest with ⟨hClosed, -⟩ | hOpen
        · rw [hClosed]
        · rw [hOpen, hIh]
          rfl
      · have hReturn := ne_return_of_not_isControl hControl.1
        have hHeld : (c = '\n' || isPlain c) = true := by
          by_cases hNewline : c = '\n'
          · simp [hNewline]
          · simp [isPlain_of_not_isControl hControl.1 hNewline]
        rw [if_neg hQuote, if_neg hReturn, hIh, if_pos hHeld]
        rfl

------------------------------------------------------------
-- All Forms
------------------------------------------------------------

/- One quote opens a string on one line. -/
theorem takeString?_basic
    {body : List Char}
    (hBody : body.head? ≠ some '"')
    (more : List Char) :
    takeString? ('"' :: (body ++ '"' :: '\n' :: more)) =
      takeBasic 0 (body ++ '"' :: '\n' :: more) := by
  cases body with
  | nil => rfl
  | cons c cs =>
      have hHead : c ≠ '"' := by simpa using hBody
      unfold takeString?
      split
      · next hEq =>
          simp only [List.cons_append, List.cons.injEq, true_and]
            at hEq
          exact absurd hEq.1 hHead
      · next hEq => simp at hEq
      · rfl

theorem takeString?_literal
    {body : List Char}
    (hBody : '\'' ∉ body)
    (more : List Char) :
    takeString? ('\'' :: (body ++ '\'' :: '\n' :: more)) =
      takeLiteral (body ++ '\'' :: '\n' :: more) := by
  cases body with
  | nil => rfl
  | cons c cs =>
      have hHead : c ≠ '\'' := by
        intro hEq
        exact hBody (hEq ▸ List.mem_cons_self)
      unfold takeString?
      split
      · next hEq => simp at hEq
      · next hEq =>
          simp only [List.cons_append, List.cons.injEq, true_and]
            at hEq
          exact absurd hEq.1 hHead
      · rfl

/- The newline that was put in front is the one that is dropped. -/
theorem dropFirstNewline_append
    {cs : List Char}
    (hReturn : '\n' ∉ cs → cs.any isControl = false)
    {body : List Char}
    (hBody : '\n' ∉ cs → body = cs)
    (c : Char)
    (hTail : c ≠ '\n' ∧ c ≠ '\x0D')
    (rest : List Char) :
    dropFirstNewline (leadingNewline cs ++ (body ++ c :: rest)) =
      body ++ c :: rest := by
  unfold leadingNewline
  by_cases hNewline : '\n' ∈ cs
  · rw [if_pos (by simpa using hNewline)]
    rfl
  · rw [if_neg (by simpa using hNewline), List.nil_append,
      hBody hNewline]
    have hControl := hReturn hNewline
    cases cs with
    | nil =>
        rw [List.nil_append]
        unfold dropFirstNewline
        split
        · next hEq => exact absurd (List.cons.inj hEq).1 hTail.1
        · next hEq => exact absurd (List.cons.inj hEq).1 hTail.2
        · rfl
    | cons d ds =>
        simp only [List.any_cons, Bool.or_eq_false_iff] at hControl
        have hFirst := ne_return_of_not_isControl hControl.1
        have hOther : d ≠ '\n' := by
          intro hEq
          exact hNewline (hEq ▸ List.mem_cons_self)
        rw [List.cons_append]
        unfold dropFirstNewline
        split
        · next hEq => exact absurd (List.cons.inj hEq).1 hOther
        · next hEq => exact absurd (List.cons.inj hEq).1 hFirst
        · rfl

theorem head?_escapeChars
    (run : Nat)
    (cs : List Char) :
    (escapeChars 0 run cs).head? ≠ some '"' := by
  cases cs with
  | nil => simp [escapeChars]
  | cons c cs =>
      rw [escapeChars]
      by_cases hQuote : c = '"'
      · rw [if_pos hQuote, if_neg (Nat.not_lt_zero run)]
        simp
      · rw [if_neg hQuote]
        by_cases hEscape : (isControl c || c = '\\') = true
        · rcases head?_escapeOf hEscape (escapeChars 0 0 cs) with
            ⟨e, hForm⟩
          rw [if_pos hEscape, hForm]
          simp
        · rw [if_neg hEscape]
          simpa using hQuote

section Forms

variable {cs : List Char}
variable (more : List Char)

theorem head?_newline
    {q : Char}
    (hQuote : q ≠ '\n') :
    ('\n' :: more).head? ≠ some q := by
  simpa using Ne.symm hQuote

theorem takeString?_escapedBasic (hLine : '\n' ∉ cs) :
    takeString? (writtenAs .escapedBasic cs ++ '\n' :: more) =
      some (cs, '\n' :: more) := by
  simp only [writtenAs, List.cons_append, List.append_assoc,
    List.nil_append]
  rw [takeString?_basic (head?_escapeChars 0 cs),
    takeBasic_escapeChars hLine]

/- The plain form is the escaped one of the same text. -/
theorem takeString?_plainBasic
    (hControl : cs.any isControl = false)
    (hLine : '\n' ∉ cs)
    (hBackslash : '\\' ∉ cs)
    (hQuote : '"' ∉ cs) :
    takeString? (writtenAs .basic cs ++ '\n' :: more) =
      some (cs, '\n' :: more) := by
  have hSame :=
    escapeChars_of_no_quote hControl hBackslash hQuote 0 0
  have hRead := takeString?_escapedBasic more hLine
  simp only [writtenAs, hSame] at hRead ⊢
  exact hRead

theorem takeString?_plainLiteral
    (hControl : cs.any isControl = false)
    (hLine : '\n' ∉ cs)
    (hQuote : '\'' ∉ cs) :
    takeString? (writtenAs .literal cs ++ '\n' :: more) =
      some (cs, '\n' :: more) := by
  simp only [writtenAs, List.cons_append, List.append_assoc,
    List.nil_append]
  rw [takeString?_literal hQuote,
    takeLiteral_append hControl hLine hQuote]

/- What stands between three quotes, escaped or not. -/
theorem takeString?_multi
    {body : List Char}
    (hForm : escapeChars 2 0 cs = body)
    (hReturn : '\n' ∉ cs → cs.any isControl = false)
    (hBody : '\n' ∉ cs → body = cs) :
    takeString?
        (tripled '"' ++ leadingNewline cs ++ body ++ tripled '"' ++
          '\n' :: more) =
      some (cs, '\n' :: more) := by
  have hRead :=
    takeMultiBasic_escapeChars (Nat.zero_le 2) cs
      (head?_newline more (q := '"') (by decide))
  rw [hForm] at hRead
  simp only [tripled, List.cons_append, List.append_assoc,
    List.nil_append]
  rw [takeString?,
    dropFirstNewline_append hReturn hBody '"' (by decide), hRead]

theorem takeString?_multiLiteral
    (hControl : cs.any isControl = false)
    (hThree : hasThree '\'' cs = false) :
    takeString? (writtenAs .multiLiteral cs ++ '\n' :: more) =
      some (cs, '\n' :: more) := by
  simp only [writtenAs, tripled, List.cons_append,
    List.append_assoc, List.nil_append]
  rw [takeString?,
    dropFirstNewline_append (fun _ => hControl) (fun _ => rfl) '\''
      (by decide),
    takeMultiLiteral_append hControl hThree
      (head?_newline more (by decide))]

end Forms

/-
  A text that is written as a string on a line is read back,
  and the line ends where it did.
-/
theorem takeString?_written
    (cs more : List Char) :
    takeString? (writtenAs (formOf cs) cs ++ '\n' :: more) =
      some (cs, '\n' :: more) := by
  unfold formOf
  dsimp only
  split
  · next hForm =>
      simp only [Bool.and_eq_true, Bool.not_eq_true',
        List.contains_eq_mem, decide_eq_false_iff_not] at hForm
      rcases hForm with ⟨⟨⟨hControl, hLine⟩, hBackslash⟩, hQuote⟩
      exact takeString?_plainBasic more hControl hLine hBackslash hQuote
  split
  · next hForm =>
      simp only [Bool.and_eq_true, Bool.not_eq_true',
        List.contains_eq_mem, decide_eq_false_iff_not] at hForm
      rcases hForm with ⟨⟨hControl, hLine⟩, hQuote⟩
      exact takeString?_plainLiteral more hControl hLine hQuote
  split
  · next hForm =>
      simp only [Bool.and_eq_true, Bool.not_eq_true',
        List.contains_eq_mem, decide_eq_false_iff_not] at hForm
      rcases hForm with ⟨⟨hControl, hBackslash⟩, hThree⟩
      have hSame :=
        escapeChars_of_no_three hControl hBackslash (Nat.zero_le 2)
          hThree
      exact takeString?_multi more hSame (fun _ => hControl)
        fun _ => rfl
  split
  · next hForm =>
      simp only [Bool.and_eq_true, Bool.not_eq_true'] at hForm
      exact takeString?_multiLiteral more hForm.1 hForm.2
  split
  · next hNewline =>
      have hMem : '\n' ∈ cs := by simpa using hNewline
      exact takeString?_multi more rfl
        (fun hNone => absurd hMem hNone)
        fun hNone => absurd hMem hNone
  · next hNewline =>
      have hLine : '\n' ∉ cs := by simpa using hNewline
      exact takeString?_escapedBasic more hLine

end Toml

end ReleasePipeline
