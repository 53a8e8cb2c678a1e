import Mathlib.Data.List.TakeWhile
import Mathlib.Tactic.IntervalCases
import ReleasePipeline.Json.Reader
import ReleasePipeline.Json.Writer
import ReleasePipeline.Proofs.Text.Utf8

/-
  This file proves how written JSON is split into tokens.  A
  text between quotes is one token whatever follows it.  A
  word or a number ends where something else begins, so that
  nothing may follow it directly that could be a part of it.

  Key definitions include:
    * `Json.Tokenized`, `Json.Splits`
    * `Json.Apart`, `Json.SplitsOff`

  Main declarations:
    * `Json.escape_cases`
    * `Json.takeString_quoted`
    * `Json.splits_quoted`
    * `Json.splitsOff_word`, `Json.splitsOff_integer`
-/

------------------------------------------------------------
-- Escapes
------------------------------------------------------------

namespace ReleasePipeline

namespace Json

open Utf8 (Piece)

/-
  A character is written as a short escape, as the four digits
  of its value, or as itself.
-/
theorem escape_cases (c : Char) :
    (∃ e, shortEscape? e = some c ∧ escape c = ['\\', e]) ∨
      (c.toNat < 0x20 ∧
        escape c =
          ['\\', 'u', '0', '0',
            Hex.digit (c.toNat / 16), Hex.digit (c.toNat % 16)]) ∨
      (c ≠ '"' ∧ ¬ (c = '\\' ∨ c.toNat < 0x20) ∧ escape c = [c]) := by
  unfold escape
  split
  · next hQuote => exact .inl ⟨'"', by rw [hQuote]; rfl, rfl⟩
  next hQuote =>
  split
  · next hSlash => exact .inl ⟨'\\', by rw [hSlash]; rfl, rfl⟩
  next hSlash =>
  split
  · next hBack => exact .inl ⟨'b', by rw [hBack]; rfl, rfl⟩
  split
  · next hFeed => exact .inl ⟨'f', by rw [hFeed]; rfl, rfl⟩
  split
  · next hLine => exact .inl ⟨'n', by rw [hLine]; rfl, rfl⟩
  split
  · next hReturn => exact .inl ⟨'r', by rw [hReturn]; rfl, rfl⟩
  split
  · next hTab => exact .inl ⟨'t', by rw [hTab]; rfl, rfl⟩
  split
  · next hControl => exact .inr (.inl ⟨hControl, rfl⟩)
  · next hOther =>
      refine .inr (.inr ⟨hQuote, ?_, rfl⟩)
      rintro (hEq | hLess)
      · exact hSlash hEq
      · exact hOther hLess

/- The four digits of a control character give its value. -/
theorem unitOfDigits?_control
    {n : Nat}
    (hControl : n < 0x20) :
    unitOfDigits? ['0', '0', Hex.digit (n / 16), Hex.digit (n % 16)] =
      some (.unit n) := by
  have hHigh : Hex.value? (Hex.digit (n / 16)) = some (n / 16) :=
    Hex.value?_digit _ (by omega)
  have hLow : Hex.value? (Hex.digit (n % 16)) = some (n % 16) :=
    Hex.value?_digit _ (by omega)
  have hZero : Hex.value? '0' = some 0 := rfl
  have hSum : ((0 * 16 + 0) * 16 + 0) * 16 + n / 16 = n / 16 := by
    omega
  have hValue : n / 16 * 16 + n % 16 = n := by
    omega
  unfold unitOfDigits? Hex.number?
  simp only [Hex.numberFrom?, hZero, hHigh, hLow, hSum, hValue,
    Option.map_some]

/-
  An escaped character is read as one element, which stands
  for the character.
-/
theorem takeString_escape (c : Char) :
    ∃ g,
      (∀ ps,
        takeString ((escape c).map Piece.scalar ++ ps) =
          consGlyph g (takeString ps)) ∧
      ∀ gs,
        joinGlyphs none (g :: gs) =
          (joinGlyphs none gs).map (c :: ·) := by
  rcases escape_cases c with
    ⟨e, hShort, hEscape⟩ | ⟨hControl, hEscape⟩ |
      ⟨hQuote, hPlain, hEscape⟩
  · refine ⟨.scalar c, ?_, fun _ => rfl⟩
    intro ps
    have hUnit : e ≠ 'u' := by
      rintro rfl
      cases hShort
    rw [hEscape]
    simp only [List.map_cons, List.map_nil, List.cons_append,
      List.nil_append]
    rw [takeString.eq_4 e ps fun _ _ _ _ _ _ hEq => hUnit hEq, hShort]
  · refine ⟨.unit c.toNat, ?_, ?_⟩
    · intro ps
      rw [hEscape]
      simp only [List.map_cons, List.map_nil, List.cons_append,
        List.nil_append]
      rw [takeString.eq_3, unitOfDigits?_control hControl]
    · intro gs
      have hHigh : isHighSurrogate c.toNat = false := by
        simp only [isHighSurrogate, Bool.and_eq_false_iff,
          decide_eq_false_iff_not]
        omega
      have hLow : isLowSurrogate c.toNat = false := by
        simp only [isLowSurrogate, Bool.and_eq_false_iff,
          decide_eq_false_iff_not]
        omega
      rw [joinGlyphs, hHigh, hLow, Char.ofNat_toNat]
      rfl
  · refine ⟨.scalar c, ?_, fun _ => rfl⟩
    intro ps
    have hSlash : c ≠ '\\' := fun hEq => hPlain (.inl hEq)
    rw [hEscape]
    simp only [List.map_cons, List.map_nil, List.cons_append,
      List.nil_append]
    rw [takeString.eq_5 c ps hQuote (fun _ _ _ _ _ _ => hSlash)
      (fun _ _ _ => hSlash), if_neg hPlain]

/- What is written between quotes is read from behind the first. -/
theorem takeString_quoted
    (cs : List Char)
    (ps : List Piece) :
    ∃ gs,
      takeString ((cs.flatMap escape ++ ['"']).map Piece.scalar ++ ps) =
          some (gs, ps) ∧
        joinGlyphs none gs = some cs := by
  induction cs with
  | nil => exact ⟨[], rfl, rfl⟩
  | cons c cs ih =>
      rcases ih with ⟨gs, hRead, hJoin⟩
      rcases takeString_escape c with ⟨g, hFirst, hGlyph⟩
      refine ⟨g :: gs, ?_, ?_⟩
      · rw [List.flatMap_cons, List.append_assoc, List.map_append,
          List.append_assoc, hFirst, hRead]
        rfl
      · rw [hGlyph, hJoin, Option.map_some]

------------------------------------------------------------
-- Splitting into Tokens
------------------------------------------------------------

/- Pieces that are split into tokens with any fuel that suffices. -/
def Tokenized
    (ps : List Piece)
    (ts : List Token) : Prop :=
  ∀ fuel, ps.length ≤ fuel → tokensFrom fuel ps = some ts

/- Characters that are split into tokens whatever follows them. -/
def Splits
    (cs : List Char)
    (ts : List Token) : Prop :=
  ∀ ps more, Tokenized ps more →
    Tokenized (cs.map Piece.scalar ++ ps) (ts ++ more)

theorem tokenized_nil : Tokenized [] [] := by
  intro fuel _
  cases fuel <;> rfl

/- The reader goes on behind a token. -/
theorem tokenized_cons
    {c : Char}
    {ps rest : List Piece}
    {t : Token}
    {ts : List Token}
    (hBlank : isBlank c = false)
    (hToken : takeToken c ps = some (t, rest))
    (hShorter : rest.length ≤ ps.length)
    (hRest : Tokenized rest ts) :
    Tokenized (.scalar c :: ps) (t :: ts) := by
  intro fuel hFuel
  rw [List.length_cons] at hFuel
  cases fuel with
  | zero => omega
  | succ fuel =>
      have hMore := hRest fuel (by omega)
      rw [tokensFrom, hBlank, hToken]
      simp only [Bool.false_eq_true, if_false, hMore, Option.map_some]

theorem splits_nil : Splits [] [] :=
  fun _ _ hRest => hRest

theorem Splits.append
    {cs ds : List Char}
    {ts us : List Token}
    (hFirst : Splits cs ts)
    (hSecond : Splits ds us) :
    Splits (cs ++ ds) (ts ++ us) := by
  intro ps more hRest
  have hAll := hFirst _ _ (hSecond ps more hRest)
  rw [List.map_append, List.append_assoc, List.append_assoc]
  exact hAll

/- Blanks make no tokens. -/
theorem splits_blank
    {c : Char}
    (hBlank : isBlank c = true) :
    Splits [c] [] := by
  intro ps more hRest fuel hFuel
  rw [List.map_singleton, List.singleton_append,
    List.length_cons] at hFuel
  cases fuel with
  | zero => omega
  | succ fuel =>
      rw [List.map_singleton, List.singleton_append, List.nil_append,
        tokensFrom, if_pos hBlank]
      exact hRest fuel (by omega)

theorem splits_blanks
    {cs : List Char}
    (hBlanks : ∀ c ∈ cs, isBlank c = true) :
    Splits cs [] := by
  induction cs with
  | nil => exact splits_nil
  | cons c cs ih =>
      have hFirst := splits_blank (hBlanks c List.mem_cons_self)
      have hRest := ih fun d hMem => hBlanks d (List.mem_cons_of_mem c hMem)
      exact hFirst.append hRest

theorem splits_newline (level : Nat) :
    Splits (newline level) [] := by
  apply splits_blanks
  intro c hMem
  rcases List.mem_cons.mp hMem with rfl | hMem
  · rfl
  · rw [List.eq_of_mem_replicate hMem]
    rfl

/- A mark is a token of its own. -/
theorem splits_mark
    {c : Char}
    {t : Token}
    (hMark : markToken? c = some t)
    (hBlank : isBlank c = false)
    (hQuote : c ≠ '"') :
    Splits [c] [t] := by
  intro ps more hRest
  refine tokenized_cons hBlank ?_ (Nat.le_refl _) hRest
  unfold takeToken
  rw [if_neg hQuote]
  rw [hMark]

/- A text between quotes is one token. -/
theorem splits_quoted (s : String) :
    Splits (quoted s) [.text (some s)] := by
  intro ps more hRest
  rcases takeString_quoted s.toList ps with ⟨gs, hRead, hJoin⟩
  have hShape :
      (quoted s).map Piece.scalar ++ ps =
        .scalar '"' ::
          ((s.toList.flatMap escape ++ ['"']).map Piece.scalar ++ ps) :=
    rfl
  rw [hShape]
  refine tokenized_cons rfl ?_ ?_ hRest
  · unfold takeToken
    rw [if_pos rfl, hRead]
    simp only [Option.map_some, hJoin, String.ofList_toList]
  · rw [List.length_append]
    exact Nat.le_add_left _ _

------------------------------------------------------------
-- Words and Numbers
------------------------------------------------------------

/- Pieces that do not continue a word or a number. -/
def Apart (ps : List Piece) : Prop :=
  ∀ c rest, ps = .scalar c :: rest →
    c.isAlpha = false ∧ isNumeric c = false

/-
  Characters that are split into tokens if what follows them
  stands apart.
-/
def SplitsOff
    (cs : List Char)
    (ts : List Token) : Prop :=
  ∀ ps more, Apart ps → Tokenized ps more →
    Tokenized (cs.map Piece.scalar ++ ps) (ts ++ more)

theorem apart_nil : Apart [] :=
  nofun

theorem apart_scalar
    {c : Char}
    (hAlpha : c.isAlpha = false)
    (hNumeric : isNumeric c = false)
    (ps : List Piece) :
    Apart (.scalar c :: ps) := by
  rintro d rest ⟨⟩
  exact ⟨hAlpha, hNumeric⟩

theorem apart_newline
    (level : Nat)
    (ps : List Piece) :
    Apart ((newline level).map Piece.scalar ++ ps) :=
  apart_scalar rfl rfl _

theorem Splits.off
    {cs : List Char}
    {ts : List Token}
    (hSplits : Splits cs ts) :
    SplitsOff cs ts :=
  fun ps more _ hRest => hSplits ps more hRest

theorem Splits.append_off
    {cs ds : List Char}
    {ts us : List Token}
    (hFirst : Splits cs ts)
    (hSecond : SplitsOff ds us) :
    SplitsOff (cs ++ ds) (ts ++ us) := by
  intro ps more hApart hRest
  have hAll := hFirst _ _ (hSecond ps more hApart hRest)
  rw [List.map_append, List.append_assoc, List.append_assoc]
  exact hAll

/- A word or a number may be followed by what stands apart. -/
theorem SplitsOff.append
    {cs ds : List Char}
    {ts us : List Token}
    (hFirst : SplitsOff cs ts)
    (hSecond : SplitsOff ds us)
    (hApart : ∀ ps, Apart ps → Apart (ds.map Piece.scalar ++ ps)) :
    SplitsOff (cs ++ ds) (ts ++ us) := by
  intro ps more hFollows hRest
  have hAll :=
    hFirst _ _ (hApart ps hFollows) (hSecond ps more hFollows hRest)
  rw [List.map_append, List.append_assoc, List.append_assoc]
  exact hAll

/- A run of characters ends where the test fails. -/
theorem takeRun_map
    {p : Char → Bool}
    {cs : List Char}
    (hAll : ∀ c ∈ cs, p c = true)
    {ps : List Piece}
    (hEnd : ∀ c rest, ps = .scalar c :: rest → p c = false) :
    takeRun p (cs.map Piece.scalar ++ ps) = (cs, ps) := by
  induction cs with
  | nil =>
      rw [List.map_nil, List.nil_append]
      unfold takeRun
      split
      · next c rest =>
          rw [hEnd c rest rfl]
          rfl
      · rfl
  | cons c cs ih =>
      have hMore := ih fun d hMem => hAll d (List.mem_cons_of_mem c hMem)
      rw [List.map_cons, List.cons_append, takeRun,
        hAll c List.mem_cons_self, hMore]
      rfl

/- A word is one token. -/
theorem splitsOff_word
    {c : Char}
    {cs : List Char}
    {t : Token}
    (hWord : wordToken? (c :: cs) = some t)
    (hLetters : (c :: cs).all Char.isAlpha = true)
    (hBlank : isBlank c = false)
    (hQuote : c ≠ '"')
    (hMark : markToken? c = none) :
    SplitsOff (c :: cs) [t] := by
  intro ps more hApart hRest
  have hAlpha := List.all_eq_true.mp hLetters
  rw [List.map_cons, List.cons_append]
  refine tokenized_cons hBlank ?_ ?_ hRest
  · have hRun :=
      takeRun_map (fun d hMem => hAlpha d (List.mem_cons_of_mem c hMem))
        fun d rest hEq => (hApart d rest hEq).1
    unfold takeToken
    rw [if_neg hQuote, hMark]
    simp only [hAlpha c List.mem_cons_self, if_true, hRun, hWord,
      Option.map_some]
  · rw [List.length_append]
    exact Nat.le_add_left _ _

/- A number is one token. -/
theorem splitsOff_number
    {c : Char}
    {cs : List Char}
    {t : Token}
    (hNumber : numberToken? (c :: cs) = some t)
    (hNumeric : ∀ d ∈ cs, isNumeric d = true)
    (hFirst : c = '-' ∨ c.isDigit = true) :
    SplitsOff (c :: cs) [t] := by
  have hClass :
      isBlank c = false ∧ c ≠ '"' ∧ markToken? c = none ∧
        c.isAlpha = false := by
    rcases hFirst with rfl | hDigit
    · decide
    · have hCode : c = Char.ofNat c.toNat := (Char.ofNat_toNat c).symm
      have hLow : 48 ≤ c.toNat ∧ c.toNat ≤ 57 := by
        simpa [Char.isDigit, UInt32.le_iff_toNat_le] using hDigit
      rw [hCode]
      rcases hLow with ⟨hLow, hHigh⟩
      interval_cases c.toNat <;> decide
  rcases hClass with ⟨hBlank, hQuote, hMark, hAlpha⟩
  intro ps more hApart hRest
  rw [List.map_cons, List.cons_append]
  refine tokenized_cons hBlank ?_ ?_ hRest
  · have hRun :=
      takeRun_map hNumeric fun d rest hEq => (hApart d rest hEq).2
    unfold takeToken
    rw [if_neg hQuote, hMark]
    simp only [hAlpha, Bool.false_eq_true, if_false, hRun, hNumber,
      Option.map_some]
  · rw [List.length_append]
    exact Nat.le_add_left _ _

theorem isDigit_of_mem_toDigits
    {n : Nat}
    {c : Char}
    (hMem : c ∈ Nat.toDigits 10 n) :
    c.isDigit = true :=
  Nat.isDigit_of_mem_toDigits (by decide) (by decide) hMem

/- The decimal digits of a number are read as the number. -/
theorem natOfDigits_toDigits (n : Nat) :
    natOfDigits (Nat.toDigits 10 n) = n := by
  have hFold :
      natOfDigits (Nat.toDigits 10 n) =
        Nat.ofDigitChars 10 (Nat.toDigits 10 n) 0 := by
    rw [Nat.ofDigitChars_eq_foldl, natOfDigits]
    simp only [Nat.mul_comm]
    rfl
  rw [hFold, Nat.ofDigitChars_ten_toDigits]

/- A number is written without a leading zero. -/
theorem head?_toDigits
    {n : Nat}
    (hPositive : 0 < n) :
    (Nat.toDigits 10 n).head? ≠ some '0' := by
  induction n using Nat.strongRecOn with
  | ind n ih =>
      by_cases hSmall : n < 10
      · rw [Nat.toDigits_of_lt_base hSmall]
        interval_cases n <;> decide
      · rw [Nat.toDigits_of_base_le (by decide) (by omega),
          List.head?_append]
        have hHead := ih (n / 10) (by omega) (by omega)
        cases hDigits : Nat.toDigits 10 (n / 10) with
        | nil => exact absurd hDigits Nat.toDigits_ne_nil
        | cons d ds =>
            rw [hDigits] at hHead
            exact hHead

theorem isWholePart_toDigits (n : Nat) :
    isWholePart (Nat.toDigits 10 n) = true := by
  unfold isWholePart
  rcases Nat.eq_zero_or_pos n with rfl | hPositive
  · rfl
  · have hHead := head?_toDigits hPositive
    simp [hHead, Nat.toDigits_ne_nil]

/- Digits with a sign or without one are the token of a number. -/
theorem unsignedToken?_toDigits
    (negative : Bool)
    (n : Nat)
    (hSign : negative = true → 0 < n) :
    unsignedToken? negative (Nat.toDigits 10 n) =
      some (.integer (if negative then -(n : Int) else n)) := by
  have hWhole :
      (Nat.toDigits 10 n).takeWhile Char.isDigit = Nat.toDigits 10 n :=
    List.takeWhile_eq_self_iff.mpr fun _ => isDigit_of_mem_toDigits
  have hRest : (Nat.toDigits 10 n).dropWhile Char.isDigit = [] :=
    List.dropWhile_eq_nil_iff.mpr fun _ => isDigit_of_mem_toDigits
  unfold unsignedToken?
  simp only [hWhole, hRest, isWholePart_toDigits, natOfDigits_toDigits]
  cases negative with
  | false => rfl
  | true =>
      have hZero : Nat.toDigits 10 n ≠ ['0'] := by
        intro hEq
        apply head?_toDigits (hSign rfl)
        rw [hEq]
        rfl
      simp [hZero]

theorem isNumeric_of_mem_toDigits
    {n : Nat}
    {c : Char}
    (hMem : c ∈ Nat.toDigits 10 n) :
    isNumeric c = true := by
  simp [isNumeric, isDigit_of_mem_toDigits hMem]

/- A whole number is one token. -/
theorem splitsOff_integer (n : Int) :
    SplitsOff (toString n).toList [.integer n] := by
  cases n with
  | ofNat k =>
      have hShown : (toString (Int.ofNat k)).toList = Nat.toDigits 10 k :=
        Nat.toList_repr
      have hToken := unsignedToken?_toDigits false k nofun
      rw [hShown]
      cases hAll : Nat.toDigits 10 k with
      | nil => exact absurd hAll Nat.toDigits_ne_nil
      | cons c cs =>
          have hFirst : c.isDigit = true :=
            isDigit_of_mem_toDigits (hAll ▸ List.mem_cons_self)
          rw [hAll] at hToken
          apply splitsOff_number _ _ (.inr hFirst)
          · unfold numberToken?
            split
            · next hEq =>
                cases hEq
                cases hFirst
            · exact hToken
          · intro d hMem
            exact isNumeric_of_mem_toDigits
              (hAll ▸ List.mem_cons_of_mem c hMem)
  | negSucc k =>
      have hShown :
          (toString (Int.negSucc k)).toList =
            '-' :: Nat.toDigits 10 (k + 1) := by
        have hText :
            toString (Int.negSucc k) = "-" ++ Nat.repr (k + 1) := rfl
        rw [hText, String.toList_append, Nat.toList_repr]
        rfl
      rw [hShown]
      apply splitsOff_number _ _ (.inl rfl)
      · exact unsignedToken?_toDigits true (k + 1) fun _ => k.succ_pos
      · exact fun d => isNumeric_of_mem_toDigits

end Json

end ReleasePipeline
