import ReleasePipeline.Text.Blank

/-
  This file defines the operations on text that the rest of
  the library shares: trimming, splitting at a character,
  searching and replacing.  The algorithms work on lists of
  characters; the versions on `String` are wrappers.

  Key definitions include:
    * `Text.trim`
    * `Text.dropTrailing`
    * `Text.splitAt`
    * `Text.startsWith`
    * `Text.endsWith`
    * `Text.contains`
    * `Text.replaceAll`
-/

------------------------------------------------------------
-- Trimming
------------------------------------------------------------

namespace ReleasePipeline

namespace Text

/- Drop the trailing characters that satisfy a test. -/
def dropTrailing
    (p : Char → Bool)
    (cs : List Char) : List Char :=
  (cs.reverse.dropWhile p).reverse

/- Remove White_Space from both ends. -/
def trim (s : String) : String :=
  String.ofList (dropTrailing isSpace (s.toList.dropWhile isSpace))

/- Remove every trailing slash. -/
def dropTrailingSlashes (s : String) : String :=
  String.ofList (dropTrailing (· == '/') s.toList)

------------------------------------------------------------
-- Splitting
------------------------------------------------------------

/-
  Split at every occurrence of a character.  The result has
  one piece more than there are occurrences, so the empty
  text is split into one empty piece.
-/
def splitAt
    (sep : Char) : List Char → List (List Char)
  | [] => [[]]
  | c :: cs =>
      if c = sep then
        [] :: splitAt sep cs
      else
        match splitAt sep cs with
        | [] => [[c]]
        | piece :: pieces => (c :: piece) :: pieces

/- The pieces of a text between the occurrences of a character. -/
def pieces
    (sep : Char)
    (s : String) : List String :=
  (splitAt sep s.toList).map String.ofList

theorem splitAt_ne_nil
    (sep : Char)
    (cs : List Char) :
    splitAt sep cs ≠ [] := by
  cases cs with
  | nil => simp [splitAt]
  | cons c cs =>
      simp only [splitAt]
      split
      · simp
      · split <;> simp

/- Joining the pieces with the separator gives the text back. -/
theorem intercalate_splitAt
    (sep : Char)
    (cs : List Char) :
    List.intercalate [sep] (splitAt sep cs) = cs := by
  induction cs with
  | nil => simp [splitAt, List.intercalate]
  | cons c cs ih =>
      simp only [splitAt]
      cases h : splitAt sep cs with
      | nil => exact absurd h (splitAt_ne_nil sep cs)
      | cons piece pieces =>
          rw [h] at ih
          split
          · next hc =>
              subst hc
              simp [List.intercalate] at ih ⊢
              exact ih
          · cases pieces with
            | nil =>
                simp [List.intercalate] at ih ⊢
                exact ih
            | cons q qs =>
                simp [List.intercalate] at ih ⊢
                exact ih

/- No piece holds the separator. -/
theorem not_mem_of_mem_splitAt
    {sep : Char}
    {cs piece : List Char}
    (h : piece ∈ splitAt sep cs) :
    sep ∉ piece := by
  induction cs generalizing piece with
  | nil =>
      simp only [splitAt, List.mem_singleton] at h
      subst h
      simp
  | cons c cs ih =>
      simp only [splitAt] at h
      split at h
      · rcases List.mem_cons.mp h with h | h
        · subst h
          simp
        · exact ih h
      · next hc =>
          split at h
          · next hnil => exact absurd hnil (splitAt_ne_nil sep cs)
          · next q qs hq =>
              rcases List.mem_cons.mp h with h | h
              · subst h
                have : sep ∉ q := ih (by rw [hq]; simp)
                simp only [List.mem_cons, not_or]
                exact ⟨fun e => hc e.symm, this⟩
              · exact ih (by rw [hq]; simp [h])

------------------------------------------------------------
-- Searching and Replacing
------------------------------------------------------------

/- Whether a text begins with another. -/
def startsWith
    (s start : String) : Bool :=
  start.toList.isPrefixOf s.toList

/- Whether a text ends with another. -/
def endsWith
    (s ending : String) : Bool :=
  ending.toList.isSuffixOf s.toList

/- Whether a list of characters occurs inside another. -/
def occursIn
    (needle : List Char) : List Char → Bool
  | [] => needle.isEmpty
  | c :: cs => needle.isPrefixOf (c :: cs) || occursIn needle cs

/- Whether a text occurs inside another. -/
def contains
    (s needle : String) : Bool :=
  occursIn needle.toList s.toList

/-
  Replace the occurrences of `old`, found from left to right
  without overlap.  `skip` counts the characters of the
  current occurrence that are still to be passed over.
-/
def replaceFrom
    (old new : List Char) : Nat → List Char → List Char
  | _, [] => []
  | skip + 1, _ :: cs => replaceFrom old new skip cs
  | 0, c :: cs =>
      if old.isPrefixOf (c :: cs) then
        new ++ replaceFrom old new (old.length - 1) cs
      else
        c :: replaceFrom old new 0 cs

/- Replace every occurrence of a non-empty text. -/
def replaceAll
    (s old new : String) : String :=
  String.ofList (replaceFrom old.toList new.toList 0 s.toList)

end Text

end ReleasePipeline
