import Mathlib.Data.List.TakeWhile
import ReleasePipeline.Glob.Pattern

/-
  This file proves what it means for a glob pattern to be
  read.  Its characters are taken part by part until none is
  left, whatever the position and the fuel; a set is taken up
  to the bracket that ends it, and a set without such a
  bracket is what the reader cannot get over.

  Key definitions include:
    * `Glob.Member.spells`, `Glob.slashInSet`
    * `Glob.Encloses`
    * `Glob.Takes`, `Glob.Spells`, `Glob.Jams`

  Main declarations:
    * `Glob.takeSet?_eq_some_iff`
    * `Glob.parseFrom_of_takes`
    * `Glob.parse_eq_ok_iff`
    * `Glob.parse_of_jams`
-/

------------------------------------------------------------
-- Sets
------------------------------------------------------------

namespace ReleasePipeline

namespace Glob

/-
  Whether a member of a set spells a character: by itself, or
  as an end of a range.
-/
def Member.spells
    (c : Char) : Member → Bool
  | .single d => d == c
  | .range first last => first == c || last == c

/- Whether a part of a pattern is a set that spells a slash. -/
def Token.slashInSet : Token → Bool
  | .within set => set.any (Member.spells '/')
  | .except set => set.any (Member.spells '/')
  | .literal _ => false
  | .anyChar => false
  | .anyRun => false
  | .anyComponents => false

/- Whether a set of a pattern spells a slash. -/
def slashInSet (p : Pattern) : Bool :=
  p.any Token.slashInSet

theorem any_spells_members (cs : List Char) :
    (members cs).any (Member.spells '/') = true ↔ '/' ∈ cs := by
  induction cs using members.induct with
  | case1 a b rest ih =>
      have hHyphen : '/' ≠ '-' := by decide
      rw [members, List.any_cons, Bool.or_eq_true, ih]
      simp only [Member.spells, Bool.or_eq_true, beq_iff_eq,
        List.mem_cons, hHyphen, false_or, or_assoc, @eq_comm _ '/']
  | case2 c rest hSingle ih =>
      rw [members.eq_2 c rest hSingle, List.any_cons,
        Bool.or_eq_true, ih]
      simp only [Member.spells, beq_iff_eq, List.mem_cons,
        @eq_comm _ '/']
  | case3 => exact ⟨nofun, nofun⟩

/- A set and the characters between its brackets. -/
inductive Encloses : List Char → Token → Prop where
  | except
      {first : Char}
      {body : List Char}
      (hOpen : ']' ∉ body) :
      Encloses ('!' :: first :: body)
        (.except (members (first :: body)))
  | within
      {first : Char}
      {body : List Char}
      (hOpen : ']' ∉ body)
      (hFirst : first ≠ '!') :
      Encloses (first :: body) (.within (members (first :: body)))

theorem Encloses.slashInSet_iff
    {inner : List Char}
    {t : Token}
    (hSet : Encloses inner t) :
    t.slashInSet = true ↔ '/' ∈ inner := by
  cases hSet with
  | except hOpen =>
      have hMark : '/' ≠ '!' := by decide
      rw [Token.slashInSet, any_spells_members,
        List.mem_cons (b := '!'), or_iff_right hMark]
  | within hOpen hFirst =>
      rw [Token.slashInSet, any_spells_members]

/- No set ends before the first bracket that can end it. -/
theorem Encloses.not_append
    {inner inner' : List Char}
    {t t' : Token}
    (hSet : Encloses inner t)
    (hSet' : Encloses inner' t')
    (rest : List Char) :
    inner ≠ inner' ++ ']' :: rest := by
  intro hEq
  cases hSet with
  | except hOpen =>
      cases hSet' with
      | except hOpen' =>
          simp only [List.cons_append, List.cons.injEq, true_and] at hEq
          exact hOpen (by simp [hEq.2])
      | within hOpen' hFirst' =>
          simp only [List.cons_append, List.cons.injEq] at hEq
          exact hFirst' hEq.1.symm
  | within hOpen hFirst =>
      cases hSet' with
      | except hOpen' =>
          simp only [List.cons_append, List.cons.injEq] at hEq
          exact hFirst hEq.1
      | within hOpen' hFirst' =>
          simp only [List.cons_append, List.cons.injEq] at hEq
          exact hOpen (by simp [hEq.2])

theorem takeWhile_append_bracket
    {body : List Char}
    (hOpen : ']' ∉ body)
    (after : List Char) :
    (body ++ ']' :: after).takeWhile (· != ']') = body ∧
      (body ++ ']' :: after).dropWhile (· != ']') = ']' :: after := by
  have hBody : ∀ c ∈ body, (c != ']') = true := by
    intro c hMember
    rw [bne_iff_ne]
    exact fun hEq => hOpen (hEq ▸ hMember)
  constructor
  · rw [List.takeWhile_append_of_pos hBody]
    simp
  · rw [List.dropWhile_append_of_pos hBody]
    simp

/- What stands before the first closing bracket, and behind it. -/
theorem eq_append_of_dropWhile_bracket
    {cs after : List Char}
    {c : Char}
    (hDrop : cs.dropWhile (· != ']') = c :: after) :
    ']' ∉ cs.takeWhile (· != ']') ∧
      cs = cs.takeWhile (· != ']') ++ ']' :: after := by
  constructor
  · intro hMember
    have hTest := List.mem_takeWhile_imp hMember
    exact absurd rfl (bne_iff_ne.mp hTest)
  · have hHead : c = ']' := by
      have hNot := List.head?_dropWhile_not (· != ']') cs
      rw [hDrop] at hNot
      simpa using hNot
    have hAll := List.takeWhile_append_dropWhile (p := (· != ']')) (l := cs)
    rw [hDrop, hHead] at hAll
    exact hAll.symm

theorem takeSet?_of_ne
    {first : Char}
    (hFirst : first ≠ '!')
    (rest : List Char) :
    takeSet? (first :: rest) =
      match rest.dropWhile (· != ']') with
      | [] => none
      | _ :: after =>
          some (.within
            (members (first :: rest.takeWhile (· != ']'))), after) :=
  takeSet?.eq_3 first rest (fun _ _ hEq _ => hFirst hEq)
    fun hEq _ => hFirst hEq

/- A set is read up to the bracket behind its characters. -/
theorem takeSet?_eq_some_iff
    {cs after : List Char}
    {t : Token} :
    takeSet? cs = some (t, after) ↔
      ∃ inner, Encloses inner t ∧ cs = inner ++ ']' :: after := by
  constructor
  · intro hTake
    match cs with
    | [] => cases hTake
    | first :: rest =>
        by_cases hFirst : first = '!'
        · subst hFirst
          match rest with
          | [] => cases hTake
          | first :: rest =>
              rw [takeSet?.eq_1] at hTake
              split at hTake
              · cases hTake
              · next hDrop =>
                  cases hTake
                  rcases eq_append_of_dropWhile_bracket hDrop with
                    ⟨hOpen, hEq⟩
                  exact ⟨_, .except hOpen,
                    congrArg (fun cs => '!' :: first :: cs) hEq⟩
        · rw [takeSet?_of_ne hFirst] at hTake
          split at hTake
          · cases hTake
          · next hDrop =>
              cases hTake
              rcases eq_append_of_dropWhile_bracket hDrop with
                ⟨hOpen, hEq⟩
              exact ⟨_, .within hOpen hFirst,
                congrArg (first :: ·) hEq⟩
  · rintro ⟨inner, hSet, rfl⟩
    cases hSet with
    | except hOpen =>
        rcases takeWhile_append_bracket hOpen after with ⟨hTake, hDrop⟩
        rw [List.cons_append, List.cons_append, takeSet?.eq_1, hDrop,
          hTake]
    | within hOpen hFirst =>
        rcases takeWhile_append_bracket hOpen after with ⟨hTake, hDrop⟩
        rw [List.cons_append, takeSet?_of_ne hFirst, hDrop, hTake]

------------------------------------------------------------
-- Reading Part by Part
------------------------------------------------------------

/-
  One part of a pattern is read.  The flags tell whether what
  is read, and what is left, begins a component.
-/
inductive Takes :
    Bool → List Char → Token → Bool → List Char → Prop where
  | anyChar (fresh : Bool) (rest : List Char) :
      Takes fresh ('?' :: rest) .anyChar false rest
  | anyRun
      (fresh : Bool)
      {rest : List Char}
      (hSingle : rest.head? ≠ some '*') :
      Takes fresh ('*' :: rest) .anyRun false rest
  | below :
      Takes true ['*', '*'] .anyComponents true []
  | between (rest : List Char) :
      Takes true ('*' :: '*' :: '/' :: rest) .anyComponents true rest
  | set
      (fresh : Bool)
      {inner : List Char}
      {t : Token}
      (hSet : Encloses inner t)
      (rest : List Char) :
      Takes fresh ('[' :: (inner ++ ']' :: rest)) t false rest
  | literal
      (fresh : Bool)
      {c : Char}
      (hPlain : c ≠ '?' ∧ c ≠ '*' ∧ c ≠ '[')
      (rest : List Char) :
      Takes fresh (c :: rest) (.literal c) (c == '/') rest

/- All parts of a pattern are read. -/
inductive Spells : Bool → List Char → Pattern → Prop where
  | nil (fresh : Bool) : Spells fresh [] []
  | cons
      {fresh fresh' : Bool}
      {cs rest : List Char}
      {t : Token}
      {ts : Pattern}
      (hTakes : Takes fresh cs t fresh' rest)
      (hRest : Spells fresh' rest ts) :
      Spells fresh cs (t :: ts)

/- A set without an end is met, behind parts that are read. -/
inductive Jams : Bool → List Char → Prop where
  | here
      (fresh : Bool)
      {rest : List Char}
      (hOpen : takeSet? rest = none) :
      Jams fresh ('[' :: rest)
  | later
      {fresh fresh' : Bool}
      {cs rest : List Char}
      {t : Token}
      (hTakes : Takes fresh cs t fresh' rest)
      (hRest : Jams fresh' rest) :
      Jams fresh cs

variable {fresh fresh' : Bool} {cs rest : List Char} {t : Token}
variable {p : Pattern}

theorem takeWhile_star_of_head?
    (hSingle : rest.head? ≠ some '*') :
    rest.takeWhile (· == '*') = [] ∧
      rest.dropWhile (· == '*') = rest := by
  cases rest with
  | nil => exact ⟨rfl, rfl⟩
  | cons c rest =>
      have hNot : (c == '*') = false := by
        rw [beq_eq_false_iff_ne]
        exact fun hEq => hSingle (hEq ▸ rfl)
      rw [List.takeWhile_cons, List.dropWhile_cons, hNot]
      exact ⟨rfl, rfl⟩

/- What is left of the characters is read as what is left of the pattern. -/
theorem parseFrom_of_takes
    (hTakes : Takes fresh cs t fresh' rest)
    {fuel : Nat}
    (hFuel : cs.length ≤ fuel)
    (position : Nat) :
    ∃ fuel' position',
      rest.length ≤ fuel' ∧
      parseFrom fuel position fresh cs =
        consToken t (parseFrom fuel' position' fresh' rest) := by
  cases fuel with
  | zero => cases hTakes <;> simp at hFuel
  | succ fuel =>
      cases hTakes with
      | anyChar =>
          refine ⟨fuel, position + 1, by simpa using hFuel, ?_⟩
          rw [parseFrom, if_pos rfl]
      | anyRun _ hSingle =>
          rcases takeWhile_star_of_head? hSingle with ⟨hTake, hDrop⟩
          refine ⟨fuel, position + 1, by simpa using hFuel, ?_⟩
          rw [parseFrom, if_neg (by decide), if_pos rfl, hTake, hDrop]
          rfl
      | below =>
          refine ⟨fuel, position, Nat.zero_le fuel, ?_⟩
          cases fuel <;> rfl
      | between rest =>
          refine ⟨fuel, position + 3, ?_, ?_⟩
          · simp only [List.length_cons] at hFuel
            omega
          · rw [parseFrom, if_neg (by decide), if_pos rfl]
            rfl
      | @set _ inner t hSet rest =>
          have hTake :
              takeSet? (inner ++ ']' :: rest) = some (t, rest) :=
            takeSet?_eq_some_iff.mpr ⟨inner, hSet, rfl⟩
          refine ⟨fuel,
            position + 1 + ((inner ++ ']' :: rest).length - rest.length),
            ?_, ?_⟩
          · simp only [List.length_cons, List.length_append] at hFuel
            omega
          · rw [parseFrom, if_neg (by decide), if_neg (by decide),
              if_pos rfl, hTake]
      | literal _ hPlain rest =>
          refine ⟨fuel, position + 1, by simpa using hFuel, ?_⟩
          rw [parseFrom, if_neg hPlain.1, if_neg hPlain.2.1,
            if_neg hPlain.2.2]

theorem parseFrom_of_spells
    (hSpells : Spells fresh cs p)
    {fuel : Nat}
    (hFuel : cs.length ≤ fuel)
    (position : Nat) :
    parseFrom fuel position fresh cs = .ok p := by
  induction hSpells generalizing fuel position with
  | nil fresh => cases fuel <;> rfl
  | cons hTakes hRest ih =>
      rcases parseFrom_of_takes hTakes hFuel position with
        ⟨fuel', position', hFuel', hStep⟩
      rw [hStep, ih hFuel' position']
      rfl

theorem parseFrom_of_jams
    (hJams : Jams fresh cs)
    {fuel : Nat}
    (hFuel : cs.length ≤ fuel)
    (position : Nat) :
    ∃ stop, parseFrom fuel position fresh cs =
      .error ⟨stop, .brackets⟩ := by
  induction hJams generalizing fuel position with
  | here fresh hOpen =>
      cases fuel with
      | zero => simp at hFuel
      | succ fuel =>
          refine ⟨position, ?_⟩
          rw [parseFrom, if_neg (by decide), if_neg (by decide),
            if_pos rfl, hOpen]
  | later hTakes hRest ih =>
      rcases parseFrom_of_takes hTakes hFuel position with
        ⟨fuel', position', hFuel', hStep⟩
      rcases ih hFuel' position' with ⟨stop, hStop⟩
      refine ⟨stop, ?_⟩
      rw [hStep, hStop]
      rfl

theorem consToken_eq_ok
    {r : Except PatternFault Pattern}
    (hCons : consToken t r = .ok p) :
    ∃ ts, r = .ok ts ∧ p = t :: ts := by
  cases r with
  | error f => cases hCons
  | ok ts =>
      cases hCons
      exact ⟨ts, rfl, rfl⟩

/- The asterisks at the start of a text, and what is behind them. -/
theorem eq_replicate_append_of_takeWhile
    {count : Nat}
    (hCount : (rest.takeWhile (· == '*')).length = count) :
    rest = List.replicate count '*' ++ rest.dropWhile (· == '*') ∧
      (rest.dropWhile (· == '*')).head? ≠ some '*' := by
  constructor
  · have hStars :
        rest.takeWhile (· == '*') = List.replicate count '*' := by
      rw [List.eq_replicate_iff]
      refine ⟨hCount, fun c hMember => ?_⟩
      have hTest := List.mem_takeWhile_imp hMember
      exact beq_iff_eq.mp hTest
    rw [← hStars, List.takeWhile_append_dropWhile]
  · intro hStar
    have hNot := List.head?_dropWhile_not (· == '*') rest
    rw [hStar] at hNot
    cases hNot

/- What it means for a pattern that begins with an asterisk to be read. -/
theorem exists_takes_of_star
    {fuel position : Nat}
    (hFuel : rest.length ≤ fuel)
    (hParse : parseFrom (fuel + 1) position fresh ('*' :: rest) = .ok p) :
    ∃ t ts fresh' after position',
      p = t :: ts ∧
      Takes fresh ('*' :: rest) t fresh' after ∧
      after.length ≤ fuel ∧
      parseFrom fuel position' fresh' after = .ok ts := by
  rw [parseFrom, if_neg (by decide), if_pos rfl] at hParse
  dsimp only at hParse
  split at hParse
  · next hCount =>
      rcases eq_replicate_append_of_takeWhile hCount with ⟨hRest, hHead⟩
      rw [List.replicate_zero, List.nil_append] at hRest
      rcases consToken_eq_ok hParse with ⟨ts, hMore, rfl⟩
      rw [← hRest] at hMore hHead
      exact ⟨.anyRun, ts, false, rest, _, rfl, .anyRun fresh hHead,
        hFuel, hMore⟩
  · next hCount =>
      rcases eq_replicate_append_of_takeWhile hCount with ⟨hRest, -⟩
      split at hParse
      · next hFresh =>
          subst hFresh
          split at hParse
          · next hAfter =>
              cases hParse
              rw [hAfter] at hRest
              subst hRest
              exact ⟨.anyComponents, [], true, [], 0, rfl, .below,
                Nat.zero_le fuel, by cases fuel <;> rfl⟩
          · next d after hAfter =>
              split at hParse
              · next hSlash =>
                  subst hSlash
                  rw [hAfter] at hRest
                  subst hRest
                  rcases consToken_eq_ok hParse with ⟨ts, hMore, rfl⟩
                  refine ⟨.anyComponents, ts, true, after, _, rfl,
                    .between after, ?_, hMore⟩
                  simp only [List.length_append, List.length_cons]
                    at hFuel
                  omega
              · cases hParse
      · cases hParse
  · cases hParse

/- A pattern is read one part after another. -/
theorem exists_takes_of_parseFrom
    {fuel position : Nat}
    {c : Char}
    (hFuel : rest.length ≤ fuel)
    (hParse : parseFrom (fuel + 1) position fresh (c :: rest) = .ok p) :
    ∃ t ts fresh' after position',
      p = t :: ts ∧
      Takes fresh (c :: rest) t fresh' after ∧
      after.length ≤ fuel ∧
      parseFrom fuel position' fresh' after = .ok ts := by
  by_cases hStar : c = '*'
  · subst hStar
    exact exists_takes_of_star hFuel hParse
  rw [parseFrom] at hParse
  split at hParse
  · next hQuestion =>
      subst hQuestion
      rcases consToken_eq_ok hParse with ⟨ts, hMore, rfl⟩
      exact ⟨.anyChar, ts, false, rest, _, rfl, .anyChar fresh rest,
        hFuel, hMore⟩
  · next hQuestion =>
      split at hParse
      · next hBracket =>
          subst hBracket
          split at hParse
          · cases hParse
          · next set after hTake =>
              rcases takeSet?_eq_some_iff.mp hTake with
                ⟨inner, hSet, rfl⟩
              rcases consToken_eq_ok hParse with ⟨ts, hMore, rfl⟩
              refine ⟨set, ts, false, after, _, rfl,
                .set fresh hSet after, ?_, hMore⟩
              simp only [List.length_append, List.length_cons] at hFuel
              omega
      · next hBracket =>
          rcases consToken_eq_ok hParse with ⟨ts, hMore, rfl⟩
          exact ⟨.literal c, ts, c == '/', rest, _, rfl,
            .literal fresh ⟨hQuestion, hStar, hBracket⟩ rest, hFuel,
            hMore⟩

theorem spells_of_parseFrom
    {fuel position : Nat}
    (hFuel : cs.length ≤ fuel)
    (hParse : parseFrom fuel position fresh cs = .ok p) :
    Spells fresh cs p := by
  induction fuel generalizing position fresh cs p with
  | zero =>
      have hNil : cs = [] := List.length_eq_zero_iff.mp (by omega)
      subst hNil
      cases hParse
      exact .nil fresh
  | succ fuel ih =>
      cases cs with
      | nil =>
          cases hParse
          exact .nil fresh
      | cons c rest =>
          have hShorter : rest.length ≤ fuel := by simpa using hFuel
          rcases exists_takes_of_parseFrom hShorter hParse with
            ⟨t, ts, fresh', after, position', rfl, hTakes, hLeft, hMore⟩
          exact .cons hTakes (ih hLeft hMore)

/- A text is read as the parts that it spells. -/
theorem parse_eq_ok_iff {text : String} :
    parse text = .ok p ↔ Spells true text.toList p :=
  ⟨spells_of_parseFrom (Nat.le_refl _),
    fun hSpells => parseFrom_of_spells hSpells (Nat.le_refl _) 0⟩

/- A set without an end is the only fault of a text that jams. -/
theorem parse_of_jams
    {text : String}
    (hJams : Jams true text.toList) :
    ∃ stop, parse text = .error ⟨stop, .brackets⟩ :=
  parseFrom_of_jams hJams (Nat.le_refl _) 0

end Glob

end ReleasePipeline
