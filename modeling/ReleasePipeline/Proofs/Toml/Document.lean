import ReleasePipeline.Proofs.Toml.Quoted
import ReleasePipeline.Toml.Reader

/-
  This file proves how a document is read that consists of
  lines: blank ones, comments, and statements, each behind
  a newline of its own.  A value may itself run over several
  lines.

  Key definitions include:
    * `Toml.IsBareText`
    * `Toml.IsValue`
    * `Toml.IsLine`
    * `Toml.Reads`

  Main declarations:
    * `Toml.isValue_written`
    * `Toml.isLine_assignment`
    * `Toml.isLine_element`
    * `Toml.Reads.line`
    * `Toml.read?_of_reads`
-/

------------------------------------------------------------
-- Keys
------------------------------------------------------------

namespace ReleasePipeline

namespace Toml

/- A key that needs no quotes. -/
structure IsBareText (key : List Char) : Prop where
  ne_nil : key ≠ []
  bare : ∀ c ∈ key, isBareKey c = true

theorem IsBareText.of_all
    {key : List Char}
    (hSome : key.isEmpty = false)
    (hAll : key.all isBareKey = true) :
    IsBareText key :=
  ⟨List.isEmpty_eq_false_iff.mp hSome, List.all_eq_true.mp hAll⟩

/- Bare characters have no other meaning in a document. -/
structure IsOrdinary (c : Char) : Prop where
  notBlank : isBlank c = false
  notNewline : c ≠ '\n'
  notReturn : c ≠ '\x0D'
  notComment : c ≠ '#'
  notQuote : c ≠ '"'
  notLiteral : c ≠ '\''
  notBracket : c ≠ '['

theorem isOrdinary_of_isBareKey
    {c : Char}
    (hBare : isBareKey c = true) :
    IsOrdinary c := by
  constructor
  · by_contra hBlank
    simp only [isBlank, Bool.not_eq_false, Bool.or_eq_true,
      beq_iff_eq] at hBlank
    rcases hBlank with rfl | rfl
    · exact absurd hBare (by decide)
    · exact absurd hBare (by decide)
  all_goals
    intro hEq
    rw [hEq] at hBare
    exact absurd hBare (by decide)

/- A key begins with a character of its own. -/
theorem IsBareText.starts
    {key : List Char}
    (hKey : IsBareText key) :
    ∃ c cs, key = c :: cs ∧ IsOrdinary c := by
  cases hChars : key with
  | nil => exact absurd hChars hKey.ne_nil
  | cons c cs =>
      have hBare : isBareKey c = true := hKey.bare c (by simp [hChars])
      exact ⟨c, cs, rfl, isOrdinary_of_isBareKey hBare⟩

theorem skipBlanks_cons
    {c : Char}
    (hBlank : isBlank c = false)
    (cs : List Char) :
    skipBlanks (c :: cs) = c :: cs := by
  unfold skipBlanks
  rw [List.dropWhile_cons_of_neg]
  simp [hBlank]

/- A key ends before the first character that is not bare. -/
theorem takePart_bare
    {key : List Char}
    (hKey : IsBareText key)
    {d : Char}
    (hEnd : isBareKey d = false)
    (rest : List Char) :
    takePart (key ++ d :: rest) = some (String.ofList key, d :: rest) := by
  have hTake :
      (key ++ d :: rest).takeWhile isBareKey = key := by
    rw [List.takeWhile_append_of_pos hKey.bare,
      List.takeWhile_cons_of_neg (by simp [hEnd]), List.append_nil]
  have hDrop :
      (key ++ d :: rest).dropWhile isBareKey = d :: rest := by
    rw [List.dropWhile_append_of_pos hKey.bare,
      List.dropWhile_cons_of_neg (by simp [hEnd])]
  rcases hKey.starts with ⟨c, cs, hChars, hOrdinary⟩
  have hString : takeLineString? (key ++ d :: rest) = none := by
    rw [hChars, List.cons_append]
    unfold takeLineString?
    split
    · next hEq =>
        exact absurd (List.cons.inj hEq).1 hOrdinary.notQuote
    · next hEq =>
        exact absurd (List.cons.inj hEq).1 hOrdinary.notLiteral
    · rfl
  unfold takePart
  rw [hString]
  dsimp only
  rw [hTake, hDrop, hChars]

/- A key of one part, and what comes behind the blanks. -/
theorem takeKey_bare
    {key : List Char}
    (hKey : IsBareText key)
    {d : Char}
    (hEnd : isBareKey d = false)
    {rest : List Char}
    {c : Char}
    {more : List Char}
    (hRest : skipBlanks (d :: rest) = c :: more)
    (hDot : c ≠ '.') :
    takeKey (key ++ d :: rest).length (key ++ d :: rest) =
      some ([String.ofList key], c :: more) := by
  have hStart : skipBlanks (key ++ d :: rest) = key ++ d :: rest := by
    rcases hKey.starts with ⟨k, ks, hChars, hOrdinary⟩
    rw [hChars, List.cons_append, skipBlanks_cons hOrdinary.notBlank]
  cases hFuel : (key ++ d :: rest).length with
  | zero => simp at hFuel
  | succ fuel =>
      unfold takeKey
      rw [hStart, takePart_bare hKey hEnd]
      dsimp only
      rw [hRest]
      split
      · next hEq => exact absurd (List.cons.inj hEq).1 hDot
      · rfl

------------------------------------------------------------
-- Values
------------------------------------------------------------

/-
  A text that is read as a value when a line ends behind it.
  An array takes one step more than the value that it is.
-/
structure IsValue
    (value : List Char)
    (item : Item) : Prop where
  starts : ∃ c cs, value = c :: cs ∧ isBlank c = false
  read : ∀ fuel more, 2 ≤ fuel →
    takeValue fuel depthLimit (value ++ '\n' :: more) =
      some (item, '\n' :: more)

/- A string begins with a quote of one of two kinds. -/
theorem writtenAs_eq_cons
    (form : Form)
    (cs : List Char) :
    ∃ q body, writtenAs form cs = q :: body ∧ (q = '"' ∨ q = '\'') := by
  cases form with
  | basic => exact ⟨_, _, rfl, .inl rfl⟩
  | literal => exact ⟨_, _, rfl, .inr rfl⟩
  | multiBasic => exact ⟨_, _, rfl, .inl rfl⟩
  | multiLiteral => exact ⟨_, _, rfl, .inr rfl⟩
  | escapedBasic => exact ⟨_, _, rfl, .inl rfl⟩
  | escapedMulti => exact ⟨_, _, rfl, .inl rfl⟩

theorem isValue_written
    (cs : List Char) :
    IsValue (writtenAs (formOf cs) cs) (.text (String.ofList cs)) := by
  rcases writtenAs_eq_cons (formOf cs) cs with ⟨q, body, hForm, hQuote⟩
  constructor
  · refine ⟨q, body, hForm, ?_⟩
    rcases hQuote with rfl | rfl <;> rfl
  · intro fuel more hFuel
    have hRead := takeString?_written cs more
    rw [hForm, List.cons_append] at hRead ⊢
    cases fuel with
    | zero => omega
    | succ fuel =>
        rcases hQuote with rfl | rfl
        · simp only [takeValue, hRead, Option.map_some]
        · simp only [takeValue, hRead, Option.map_some]

theorem isValue_one : IsValue ['1'] (.integer 1) := by
  constructor
  · exact ⟨'1', [], rfl, rfl⟩
  · intro fuel more hFuel
    cases fuel with
    | zero => omega
    | succ fuel => rfl

theorem isValue_noElements : IsValue ['[', ']'] (.array []) := by
  constructor
  · exact ⟨'[', [']'], rfl, rfl⟩
  · intro fuel more hFuel
    match fuel, hFuel with
    | fuel + 2, _ => rfl

------------------------------------------------------------
-- Lines
------------------------------------------------------------

/- A text that is read as a statement when a line ends behind it. -/
structure IsLine
    (line : List Char)
    (s : Statement) : Prop where
  starts : ∀ more, skipGap false (line ++ more) = some (line ++ more)
  read : ∀ more,
    takeStatement (line ++ '\n' :: more) = some (s, '\n' :: more)

theorem skipGap_ordinary
    {c : Char}
    (hOrdinary : IsOrdinary c)
    (cs : List Char) :
    skipGap false (c :: cs) = some (c :: cs) := by
  rw [skipGap, if_neg hOrdinary.notNewline, if_neg hOrdinary.notReturn,
    if_neg Bool.false_ne_true, if_neg hOrdinary.notComment,
    if_neg (by simp [hOrdinary.notBlank])]

/- What stands between a key and its value. -/
def equalsSign : List Char :=
  [' ', '=', ' ']

theorem isLine_assignment
    {key : List Char}
    (hKey : IsBareText key)
    {value : List Char}
    {item : Item}
    (hValue : IsValue value item) :
    IsLine (key ++ equalsSign ++ value)
      (.assign [String.ofList key] item) := by
  rcases hKey.starts with ⟨k, ks, hChars, hOrdinary⟩
  constructor
  · intro more
    rw [hChars]
    exact skipGap_ordinary hOrdinary _
  · intro more
    have hTake :
        takeStatement (key ++ equalsSign ++ value ++ '\n' :: more) =
          takeAssignment
            (key ++ ' ' :: '=' :: ' ' :: (value ++ '\n' :: more)) := by
      rw [hChars]
      simp only [equalsSign, List.cons_append, List.append_assoc,
        List.nil_append]
      unfold takeStatement
      split
      · next hEq =>
          exact absurd (List.cons.inj hEq).1 hOrdinary.notBracket
      · rfl
    have hSkip :
        skipBlanks (' ' :: (value ++ '\n' :: more)) =
          value ++ '\n' :: more := by
      rcases hValue.starts with ⟨v, vs, hStart, hBlank⟩
      have hValueStart := skipBlanks_cons hBlank (vs ++ '\n' :: more)
      rw [hStart]
      exact hValueStart
    rw [hTake, takeAssignment,
      takeKey_bare hKey (d := ' ') (by decide) (c := '=') rfl
        (by decide)]
    simp only
    rw [hSkip, hValue.read _ _ (by simp; omega)]
    rfl

/- The header of an element of a list of tables. -/
theorem isLine_element
    {key : List Char}
    (hKey : IsBareText key) :
    IsLine ('[' :: '[' :: (key ++ [']', ']']))
      (.openElement [String.ofList key]) := by
  constructor
  · intro more
    rfl
  · intro more
    have hClose :
        skipBlanks (']' :: ']' :: '\n' :: more) =
          ']' :: ']' :: '\n' :: more :=
      rfl
    have hTake :=
      takeKey_bare hKey (d := ']') (by decide) hClose (by decide)
    simp only [List.cons_append, List.append_assoc, List.nil_append,
      takeStatement, takeHeader]
    rw [hTake]
    rfl

------------------------------------------------------------
-- Documents
------------------------------------------------------------

/- The statements of a text, with as many steps as it takes. -/
def Reads
    (cs : List Char)
    (ss : List Statement) : Prop :=
  ∀ fuel, cs.length ≤ fuel → statementsFrom fuel cs = some ss

namespace Reads

variable {more : List Char}
variable {ss : List Statement}

theorem nil : Reads [] [] := by
  intro fuel hFuel
  cases fuel with
  | zero => rfl
  | succ fuel => rfl

/- Only what a gap leaves is read. -/
theorem of_skipGap
    {cs more : List Char}
    {ss : List Statement}
    (hGap : skipGap false cs = skipGap false more)
    (hShort : more.length ≤ cs.length)
    (hMore : Reads more ss) :
    Reads cs ss := by
  intro fuel hFuel
  have hRest := hMore fuel (hShort.trans hFuel)
  unfold statementsFrom at hRest ⊢
  rw [hGap]
  exact hRest

theorem newline (hMore : Reads more ss) : Reads ('\n' :: more) ss := by
  have hGap : skipGap false ('\n' :: more) = skipGap false more := rfl
  exact of_skipGap hGap (by simp) hMore

theorem skipGap_comment
    {comment : List Char}
    (hPlain : ∀ c ∈ comment, isPlain c = true) :
    skipGap true (comment ++ '\n' :: more) = skipGap false more := by
  induction comment with
  | nil => rfl
  | cons c cs ih =>
      have hFirst : isPlain c = true := hPlain c List.mem_cons_self
      have hNewline : c ≠ '\n' := by
        intro hEq
        rw [hEq] at hFirst
        exact absurd hFirst (by decide)
      have hReturn : c ≠ '\x0D' := by
        intro hEq
        rw [hEq] at hFirst
        exact absurd hFirst (by decide)
      rw [List.cons_append, skipGap, if_neg hNewline, if_neg hReturn,
        if_pos rfl, if_pos hFirst]
      exact ih fun d hMem => hPlain d (List.mem_cons_of_mem c hMem)

theorem comment
    {comment : List Char}
    (hPlain : ∀ c ∈ comment, isPlain c = true)
    (hMore : Reads more ss) :
    Reads ('#' :: (comment ++ '\n' :: more)) ss := by
  have hGap :
      skipGap true (comment ++ '\n' :: more) = skipGap false more :=
    skipGap_comment hPlain
  exact of_skipGap hGap (by simp; omega) hMore

/- A line adds its statement to those that come after it. -/
theorem line
    {line : List Char}
    {s : Statement}
    (hLine : IsLine line s)
    (hMore : Reads more ss) :
    Reads (line ++ '\n' :: more) (s :: ss) := by
  intro fuel hFuel
  rw [List.length_append, List.length_cons] at hFuel
  cases fuel with
  | zero => omega
  | succ fuel =>
      have hRest := hMore fuel (by omega)
      have hNext : endLine? false ('\n' :: more) = some more := rfl
      unfold statementsFrom
      rw [hLine.starts]
      split
      · next hEq => simp at hEq
      · next hEq => simp at hEq
      · next hEq =>
          rw [← Option.some.inj hEq]
          dsimp only
          rw [hLine.read]
          dsimp only
          rw [hNext]
          dsimp only
          rw [hRest]
          rfl

end Reads

/- A document whose statements are known only has to be performed. -/
theorem read?_of_reads
    {text : String}
    {ss : List Statement}
    (hMark : dropByteOrderMark text.toList = text.toList)
    (hReads : Reads text.toList ss) :
    read? text = perform? ss [] [] := by
  have hStatements : statements? text.toList = some ss :=
    hReads _ (Nat.le_refl _)
  unfold read?
  rw [hMark, hStatements]

end Toml

end ReleasePipeline
