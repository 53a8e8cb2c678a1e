import ReleasePipeline.Proofs.Json.Tokens

/-
  This file proves that a JSON document is read back as it was
  written.  The reader works in two passes, and so does the
  proof: what is written is split into tokens, and the tokens
  stand for the value.

  Key definitions include:
    * `Json.Denotes`, `Json.ItemTokens`, `Json.FieldTokens`
    * `Json.Usable`, `Json.Textual`, `Json.Legible`

  Main declarations:
    * `Json.denotes_list`, `Json.denotes_record`
    * `Json.legible_of_usable`
    * `Json.read?_pretty_of_usable`, `Json.read?_pretty`
-/

------------------------------------------------------------
-- Tokens of a Value
------------------------------------------------------------

namespace ReleasePipeline

namespace Json

open Utf8 (Piece)

/- Tokens that stand for a value whatever follows them. -/
def Denotes
    (ts : List Token)
    (d : Datum) : Prop :=
  ∀ fuel rest, ts.length ≤ fuel →
    value? fuel (ts ++ rest) = some (d, rest)

/- The tokens of the elements of a list after the first one. -/
inductive ItemTokens : List Datum → List Token → Prop where
  | nil : ItemTokens [] []
  | cons
      {d : Datum}
      {ds : List Datum}
      {ts us : List Token}
      (hItem : Denotes ts d)
      (hMore : ItemTokens ds us) :
      ItemTokens (d :: ds) (.comma :: (ts ++ us))

/- The tokens of the fields of a record after the first one. -/
inductive FieldTokens : List (String × Datum) → List Token → Prop where
  | nil : FieldTokens [] []
  | cons
      {name : String}
      {d : Datum}
      {fields : List (String × Datum)}
      {ts us : List Token}
      (hField : Denotes ts d)
      (hMore : FieldTokens fields us) :
      FieldTokens ((name, d) :: fields)
        (.comma :: .text (some name) :: .colon :: (ts ++ us))

variable {d : Datum} {ts us : List Token}

/- No value begins with a closing bracket. -/
theorem Denotes.cases
    (hDenotes : Denotes ts d) :
    ∃ t more, ts = t :: more ∧ t ≠ .closeBracket := by
  have hRead := hDenotes ts.length [] (Nat.le_refl _)
  cases ts with
  | nil => cases hRead
  | cons t more =>
      refine ⟨t, more, rfl, ?_⟩
      rintro rfl
      cases hRead

/- A value of a single token. -/
theorem denotes_single
    {t : Token}
    (hValue :
      ∀ fuel rest, value? (fuel + 1) (t :: rest) = some (d, rest)) :
    Denotes [t] d := by
  intro fuel rest hFuel
  cases fuel with
  | zero => cases hFuel
  | succ fuel => exact hValue fuel rest

theorem denotes_text (s : String) :
    Denotes [.text (some s)] (.text s) :=
  denotes_single fun _ _ => rfl

/- The elements of a list are read up to its closing bracket. -/
theorem items?_of_denotes
    {ds : List Datum}
    (hItem : Denotes ts d)
    (hMore : ItemTokens ds us)
    (fuel : Nat)
    (hFuel : ts.length + us.length + 1 ≤ fuel)
    (rest : List Token) :
    items? fuel (ts ++ (us ++ .closeBracket :: rest)) =
      some (d :: ds, rest) := by
  induction hMore generalizing fuel ts d with
  | nil =>
      cases fuel with
      | zero => omega
      | succ fuel =>
          rw [List.length_nil] at hFuel
          rw [items?, hItem fuel _ (by omega)]
          rfl
  | @cons d' ds ts' us hNext hMore ih =>
      cases fuel with
      | zero => omega
      | succ fuel =>
          rw [List.length_cons, List.length_append] at hFuel
          have hRest := ih hNext fuel (by omega)
          rw [items?, hItem fuel _ (by omega)]
          simp only [List.cons_append, List.append_assoc, hRest]

theorem denotes_list
    {ds : List Datum}
    (hItem : Denotes ts d)
    (hMore : ItemTokens ds us) :
    Denotes (.openBracket :: (ts ++ (us ++ [.closeBracket])))
      (.list (d :: ds)) := by
  intro fuel rest hFuel
  rcases hItem.cases with ⟨t, more, hTokens, hOpen⟩
  cases fuel with
  | zero => cases hFuel
  | succ fuel =>
      simp only [List.length_cons, List.length_append,
        List.length_nil] at hFuel
      have hItems :=
        items?_of_denotes hItem hMore fuel (by omega) rest
      rw [hTokens] at hItems ⊢
      simp only [List.cons_append, List.append_assoc, List.nil_append]
        at hItems ⊢
      rw [value?]
      · rw [hItems]
      · intro rest' hEq
        cases hEq
        exact hOpen rfl

/- The fields of a record are read up to its closing brace. -/
theorem members?_of_denotes
    (name : String)
    {fields : List (String × Datum)}
    (hField : Denotes ts d)
    (hMore : FieldTokens fields us)
    (fuel : Nat)
    (hFuel : ts.length + us.length + 1 ≤ fuel)
    (rest : List Token) :
    members? fuel
        (.text (some name) :: .colon ::
          (ts ++ (us ++ .closeBrace :: rest))) =
      some (((name, d) :: fields).map fun f => (some f.1, f.2), rest) := by
  induction hMore generalizing fuel ts d name with
  | nil =>
      cases fuel with
      | zero => omega
      | succ fuel =>
          rw [List.length_nil] at hFuel
          rw [members?, hField fuel _ (by omega)]
          rfl
  | @cons name' d' fields ts' us hNext hMore ih =>
      cases fuel with
      | zero => omega
      | succ fuel =>
          simp only [List.length_cons, List.length_append] at hFuel
          have hRest := ih name' hNext fuel (by omega)
          rw [members?, hField fuel _ (by omega)]
          simp only [List.cons_append, List.append_assoc, hRest,
            List.map_cons]

/- Names that denote texts make a record. -/
theorem recordOf_map (fields : List (String × Datum)) :
    recordOf (fields.map fun f => (some f.1, f.2)) =
      .record fields := by
  have hNames :
      (fields.map fun f => (some f.1, f.2)).mapM
          (fun m => m.1.map (·, m.2)) =
        some fields := by
    induction fields with
    | nil => rfl
    | cons f fields ih =>
        rw [List.map_cons, List.mapM_cons, ih]
        rfl
  unfold recordOf
  rw [hNames]

theorem denotes_record
    (name : String)
    {fields : List (String × Datum)}
    (hField : Denotes ts d)
    (hMore : FieldTokens fields us) :
    Denotes
      (.openBrace :: .text (some name) :: .colon ::
        (ts ++ (us ++ [.closeBrace])))
      (.record ((name, d) :: fields)) := by
  intro fuel rest hFuel
  cases fuel with
  | zero => cases hFuel
  | succ fuel =>
      simp only [List.length_cons, List.length_append,
        List.length_nil] at hFuel
      have hMembers :=
        members?_of_denotes name hField hMore fuel (by omega) rest
      simp only [List.cons_append, List.append_assoc, List.nil_append]
        at hMembers ⊢
      rw [value?]
      · simp only [hMembers, recordOf_map]
      · nofun

------------------------------------------------------------
-- Documents
------------------------------------------------------------

/- Values that have a text of their own, and so have their parts. -/
inductive Usable : Datum → Prop where
  | null : Usable .null
  | boolean (b : Bool) : Usable (.boolean b)
  | integer (n : Int) : Usable (.integer n)
  | text (s : String) : Usable (.text s)
  | list
      {ds : List Datum}
      (hItems : ∀ d ∈ ds, Usable d) :
      Usable (.list ds)
  | record
      {fields : List (String × Datum)}
      (hFields : ∀ f ∈ fields, Usable f.2) :
      Usable (.record fields)

/- Values that are made of texts, lists and records. -/
inductive Textual : Datum → Prop where
  | text (s : String) : Textual (.text s)
  | list
      {ds : List Datum}
      (hItems : ∀ d ∈ ds, Textual d) :
      Textual (.list ds)
  | record
      {fields : List (String × Datum)}
      (hFields : ∀ f ∈ fields, Textual f.2) :
      Textual (.record fields)

theorem Textual.usable
    (hTextual : Textual d) :
    Usable d := by
  induction hTextual with
  | text s => exact .text s
  | list _ ih => exact .list ih
  | record _ ih => exact .record ih

/-
  What is written of a value is split into tokens that denote
  it, if what follows stands apart.
-/
def Legible (d : Datum) : Prop :=
  ∀ level, ∃ ts, SplitsOff (layout level d) ts ∧ Denotes ts d

/- An element stands apart from what is written behind it. -/
theorem apart_layoutItems
    (level : Nat)
    (ds : List Datum)
    {ps : List Piece}
    (hApart : Apart ps) :
    Apart ((layoutItems level ds).map Piece.scalar ++ ps) := by
  cases ds with
  | nil =>
      rw [layoutItems]
      exact hApart
  | cons d ds =>
      rw [layoutItems]
      exact apart_scalar rfl rfl _

theorem apart_layoutFields
    (level : Nat)
    (fields : List (String × Datum))
    {ps : List Piece}
    (hApart : Apart ps) :
    Apart ((layoutFields level fields).map Piece.scalar ++ ps) := by
  cases fields with
  | nil =>
      rw [layoutFields]
      exact hApart
  | cons f fields =>
      rw [layoutFields]
      exact apart_scalar rfl rfl _

theorem splits_comma : Splits [','] [.comma] :=
  splits_mark rfl rfl (by decide)

theorem splits_colon : Splits [':', ' '] [.colon] :=
  (splits_mark (c := ':') rfl rfl (by decide)).append
    (splits_blank (c := ' ') rfl)

/- The end of a list or of a record, on a line of its own. -/
theorem splits_closing
    (level : Nat)
    {c : Char}
    {t : Token}
    (hMark : markToken? c = some t)
    (hBlank : isBlank c = false)
    (hQuote : c ≠ '"') :
    Splits (newline level ++ [c]) [t] :=
  (splits_newline level).append (splits_mark hMark hBlank hQuote)

theorem apart_closing
    (level : Nat)
    (cs : List Char)
    (ps : List Piece) :
    Apart ((newline level ++ cs).map Piece.scalar ++ ps) := by
  rw [List.map_append, List.append_assoc]
  exact apart_newline level _

theorem exists_itemTokens
    {ds : List Datum}
    (hItems : ∀ d ∈ ds, Legible d)
    (level : Nat) :
    ∃ us, SplitsOff (layoutItems level ds) us ∧ ItemTokens ds us := by
  induction ds with
  | nil => exact ⟨[], splits_nil.off, .nil⟩
  | cons d ds ih =>
      rcases hItems d List.mem_cons_self level with ⟨ts, hSplits, hItem⟩
      rcases ih fun e hMem => hItems e (List.mem_cons_of_mem d hMem) with
        ⟨us, hMoreSplits, hMore⟩
      refine ⟨.comma :: (ts ++ us), ?_, .cons hItem hMore⟩
      have hLine :=
        hSplits.append hMoreSplits fun _ => apart_layoutItems level ds
      have hAll :=
        splits_comma.append_off
          ((splits_newline level).append_off hLine)
      rw [layoutItems]
      simpa using hAll

theorem exists_fieldTokens
    {fields : List (String × Datum)}
    (hFields : ∀ f ∈ fields, Legible f.2)
    (level : Nat) :
    ∃ us, SplitsOff (layoutFields level fields) us ∧
      FieldTokens fields us := by
  induction fields with
  | nil => exact ⟨[], splits_nil.off, .nil⟩
  | cons f fields ih =>
      rcases f with ⟨name, d⟩
      rcases hFields (name, d) List.mem_cons_self level with
        ⟨ts, hSplits, hField⟩
      rcases ih fun e hMem => hFields e (List.mem_cons_of_mem _ hMem) with
        ⟨us, hMoreSplits, hMore⟩
      refine ⟨_, ?_, .cons hField hMore⟩
      have hLine :=
        hSplits.append hMoreSplits fun _ => apart_layoutFields level fields
      have hAll :=
        splits_comma.append_off
          ((splits_newline level).append_off
            ((splits_quoted name).append_off
              (splits_colon.append_off hLine)))
      rw [layoutFields]
      simpa using hAll

theorem legible_list
    {ds : List Datum}
    (hItems : ∀ d ∈ ds, Legible d) :
    Legible (.list ds) := by
  intro level
  have hOpen : Splits ['['] [.openBracket] :=
    splits_mark rfl rfl (by decide)
  cases ds with
  | nil =>
      refine ⟨[.openBracket, .closeBracket], ?_, ?_⟩
      · rw [layout]
        exact (hOpen.append (splits_mark rfl rfl (by decide))).off
      · intro fuel rest hFuel
        cases fuel with
        | zero => cases hFuel
        | succ fuel => rfl
  | cons d ds =>
      rcases hItems d List.mem_cons_self (level + 1) with
        ⟨ts, hSplits, hItem⟩
      rcases exists_itemTokens
          (fun e hMem => hItems e (List.mem_cons_of_mem d hMem))
          (level + 1) with
        ⟨us, hMoreSplits, hMore⟩
      refine ⟨_, ?_, denotes_list hItem hMore⟩
      have hClose : Splits (newline level ++ [']']) [.closeBracket] :=
        splits_closing level rfl rfl (by decide)
      have hInner :=
        (hSplits.append hMoreSplits fun _ =>
          apart_layoutItems (level + 1) ds).append hClose.off fun ps _ =>
            apart_closing level [']'] ps
      have hAll :=
        hOpen.append_off ((splits_newline (level + 1)).append_off hInner)
      rw [layout]
      simpa using hAll

theorem legible_record
    {fields : List (String × Datum)}
    (hFields : ∀ f ∈ fields, Legible f.2) :
    Legible (.record fields) := by
  intro level
  have hOpen : Splits ['\x7b'] [.openBrace] :=
    splits_mark rfl rfl (by decide)
  cases fields with
  | nil =>
      refine ⟨[.openBrace, .closeBrace], ?_, ?_⟩
      · rw [layout]
        exact (hOpen.append (splits_mark rfl rfl (by decide))).off
      · intro fuel rest hFuel
        cases fuel with
        | zero => cases hFuel
        | succ fuel => rfl
  | cons f fields =>
      rcases f with ⟨name, d⟩
      rcases hFields (name, d) List.mem_cons_self (level + 1) with
        ⟨ts, hSplits, hField⟩
      rcases exists_fieldTokens
          (fun e hMem => hFields e (List.mem_cons_of_mem _ hMem))
          (level + 1) with
        ⟨us, hMoreSplits, hMore⟩
      refine ⟨_, ?_, denotes_record name hField hMore⟩
      have hClose : Splits (newline level ++ ['\x7d']) [.closeBrace] :=
        splits_closing level rfl rfl (by decide)
      have hInner :=
        (hSplits.append hMoreSplits fun _ =>
          apart_layoutFields (level + 1) fields).append hClose.off
            fun ps _ => apart_closing level ['\x7d'] ps
      have hAll :=
        hOpen.append_off
          ((splits_newline (level + 1)).append_off
            ((splits_quoted name).append_off
              (splits_colon.append_off hInner)))
      rw [layout]
      simpa using hAll

/- Documents are legible, by induction on how they are made. -/
theorem legible_of_usable
    (hUsable : Usable d) :
    Legible d := by
  induction hUsable with
  | null =>
      refine fun _ => ⟨[.null], ?_, denotes_single fun _ _ => rfl⟩
      rw [layout]
      exact splitsOff_word rfl rfl rfl (by decide) rfl
  | boolean b =>
      refine fun _ => ⟨[.boolean b], ?_, denotes_single fun _ _ => rfl⟩
      cases b <;> rw [layout] <;>
        exact splitsOff_word rfl rfl rfl (by decide) rfl
  | integer n =>
      refine fun _ => ⟨[.integer n], ?_, denotes_single fun _ _ => rfl⟩
      rw [layout]
      exact splitsOff_integer n
  | text s =>
      refine fun _ => ⟨[.text (some s)], ?_, denotes_text s⟩
      rw [layout]
      exact (splits_quoted s).off
  | list _ ih => exact legible_list ih
  | record _ ih => exact legible_record ih

/- A document is read back from the line that it is printed as. -/
theorem read?_pretty_of_usable
    (hUsable : Usable d) :
    read? (Utf8.encode (pretty d ++ "\n")) = some d := by
  rcases legible_of_usable hUsable 0 with ⟨ts, hSplits, hDenotes⟩
  have hLine : Splits ['\n'] [] := splits_blank rfl
  have hAll :=
    hSplits.append hLine.off fun ps _ => apart_newline 0 ps
  have hTokens := hAll [] [] apart_nil tokenized_nil _ (Nat.le_refl _)
  have hChars : (pretty d ++ "\n").toList = layout 0 d ++ ['\n'] := by
    rw [String.toList_append, pretty, String.toList_ofList]
    rfl
  have hValue := hDenotes (2 * ts.length + 1) [] (by omega)
  rw [List.append_nil, List.append_nil, List.append_nil] at hTokens
  rw [List.append_nil] at hValue
  unfold read? tokens? Utf8.encode
  rw [Utf8.scan_encodeChars, hChars, hTokens]
  unfold ofTokens?
  simp only [hValue]

theorem read?_pretty
    (hTextual : Textual d) :
    read? (Utf8.encode (pretty d ++ "\n")) = some d :=
  read?_pretty_of_usable hTextual.usable

end Json

end ReleasePipeline
