import ReleasePipeline.Lock.Snapshot
import ReleasePipeline.Proofs.Host.Actions
import ReleasePipeline.Proofs.Toml.Document

/-
  This file proves that a snapshot is read back from the
  text it is rendered as.  The text is read in the steps of
  the reader: its statements, the tables that they make, the
  value of these, and the entries in it.  All but the last
  step hold of the entries in any order.

  Key definitions include:
    * `LockSnapshot.entryTexts`
    * `LockSnapshot.fileStatements`
    * `LockSnapshot.fileText`
    * `LockSnapshot.rootOf`

  Main declarations:
    * `LockSnapshot.reads_fileText`
    * `LockSnapshot.perform?_entries`
    * `LockSnapshot.datum?_fileText`
    * `LockSnapshot.parse_eq_ok_iff`
    * `LockSnapshot.parse_render`
-/

------------------------------------------------------------
-- Statements
------------------------------------------------------------

namespace ReleasePipeline

namespace LockSnapshot

open Toml

/- The texts in the table of an entry, with their keys. -/
def entryTexts (e : LockEntry) : List (String × String) :=
  [("coordinate", e.coordinate), ("version", e.package.version)] ++
    match e.package.checksum with
    | some sum => [("checksum", sum)]
    | none => []

/- The assignment of a text. -/
def textStatement (entry : String × String) : Statement :=
  .assign [entry.1] (.text entry.2)

/- The statements of the table of an entry. -/
def entryStatements (e : LockEntry) : List Statement :=
  .openElement ["dependency"] :: (entryTexts e).map textStatement

/- The statements of the file of a list of entries. -/
def fileStatements (es : List LockEntry) : List Statement :=
  .assign ["version"] (.integer 1) ::
    match es with
    | [] => [.assign ["dependency"] (.array [])]
    | es => es.flatMap entryStatements

/- The text of a file of entries, in the order in which they come. -/
def fileText (es : List LockEntry) : String :=
  header ++ s!"version = {formatVersion}\n" ++
    match es with
    | [] => "dependency = []\n"
    | es => String.join (es.map entryTable)

theorem isBareText_of_mem_entryTexts
    {e : LockEntry}
    {entry : String × String}
    (hMem : entry ∈ entryTexts e) :
    IsBareText entry.1.toList := by
  have hName : entry.1 ∈ ["coordinate", "version", "checksum"] := by
    unfold entryTexts at hMem
    cases hSum : e.package.checksum with
    | none =>
        simp only [hSum, List.append_nil, List.mem_cons,
          List.not_mem_nil, or_false] at hMem
        rcases hMem with rfl | rfl <;> simp
    | some sum =>
        simp only [hSum, List.cons_append, List.nil_append,
          List.mem_cons, List.not_mem_nil, or_false] at hMem
        rcases hMem with rfl | rfl | rfl <;> simp
  simp only [List.mem_cons, List.not_mem_nil, or_false] at hName
  rcases hName with hName | hName | hName
  all_goals
    rw [hName]
    exact .of_all (by decide) (by decide)

/- The characters of an assignment. -/
theorem toList_assignment (key value : String) :
    (assignment key value).toList =
      key.toList ++ equalsSign ++
        writtenAs (formOf value.toList) value.toList ++ ['\n'] := by
  have hText :
      assignment key value = key ++ " = " ++ written value ++ "\n" :=
    rfl
  rw [hText]
  simp [written, equalsSign]

/- A table is its header and an assignment for each text. -/
theorem entryTable_eq (e : LockEntry) :
    entryTable e =
      "\n[[dependency]]\n" ++
        String.join
          ((entryTexts e).map fun entry => assignment entry.1 entry.2) := by
  unfold entryTable entryTexts
  cases e.package.checksum with
  | none => simp [String.append_assoc]
  | some sum => simp [String.append_assoc]

section Reading

variable {more : List Char}
variable {ss : List Statement}

theorem reads_assignments
    {texts : List (String × String)}
    (hKeys : ∀ entry ∈ texts, IsBareText entry.1.toList)
    (hMore : Reads more ss) :
    Reads
      ((String.join
        (texts.map fun entry => assignment entry.1 entry.2)).toList ++
          more)
      (texts.map textStatement ++ ss) := by
  induction texts with
  | nil => exact hMore
  | cons entry texts ih =>
      have hKey := hKeys entry List.mem_cons_self
      have hRest := ih fun e hMem => hKeys e (List.mem_cons_of_mem _ hMem)
      have hLine :=
        isLine_assignment hKey (isValue_written entry.2.toList)
      have hReads := Reads.line hLine hRest
      rw [String.ofList_toList, String.ofList_toList] at hReads
      simp only [List.map_cons, String.join_cons, String.toList_append,
        toList_assignment, List.append_assoc, List.cons_append,
        List.nil_append] at hReads ⊢
      exact hReads

theorem reads_entryTable
    (e : LockEntry)
    (hMore : Reads more ss) :
    Reads ((entryTable e).toList ++ more)
      (entryStatements e ++ ss) := by
  have hKey : IsBareText "dependency".toList :=
    .of_all (by decide) (by decide)
  have hKeys :
      ∀ entry ∈ entryTexts e, IsBareText entry.1.toList := by
    intro entry hMem
    exact isBareText_of_mem_entryTexts hMem
  have hTexts := reads_assignments hKeys hMore
  have hReads := (Reads.line (isLine_element hKey) hTexts).newline
  have hHeader :
      "\n[[dependency]]\n".toList =
        '\n' :: '[' :: '[' :: ("dependency".toList ++ [']', ']']) ++
          ['\n'] := by
    decide
  rw [String.ofList_toList] at hReads
  rw [entryTable_eq, entryStatements, String.toList_append, hHeader]
  simp only [List.append_assoc, List.cons_append, List.nil_append]
    at hReads ⊢
  exact hReads

theorem reads_entryTables (es : List LockEntry) :
    Reads (String.join (es.map entryTable)).toList
      (es.flatMap entryStatements) := by
  induction es with
  | nil => exact Reads.nil
  | cons e es ih =>
      have hReads := reads_entryTable e ih
      rw [List.map_cons, String.join_cons, String.toList_append,
        List.flatMap_cons]
      exact hReads

end Reading

/- The header is a comment, and the format version a line. -/
theorem reads_front
    {rest : List Char}
    {ss : List Statement}
    (hRest : Reads rest ss) :
    Reads ((header ++ s!"version = {formatVersion}\n").toList ++ rest)
      (.assign ["version"] (.integer 1) :: ss) := by
  have hVersion : IsBareText "version".toList :=
    .of_all (by decide) (by decide)
  have hAll : header.toList.tail.dropLast.all isPlain = true := by
    decide
  have hPlain := List.all_eq_true.mp hAll
  have hFront :
      (header ++ s!"version = {formatVersion}\n").toList =
        '#' :: (header.toList.tail.dropLast ++
          '\n' :: ("version".toList ++ equalsSign ++ ['1'] ++ ['\n'])) := by
    decide
  have hLine := Reads.line (isLine_assignment hVersion isValue_one) hRest
  have hReads := hLine.comment hPlain
  rw [String.ofList_toList] at hReads
  rw [hFront]
  simp only [List.append_assoc, List.cons_append, List.nil_append]
    at hReads ⊢
  exact hReads

/- The statements of a file are those of its entries. -/
theorem reads_fileText (es : List LockEntry) :
    Reads (fileText es).toList (fileStatements es) := by
  unfold fileText fileStatements
  cases es with
  | nil =>
      have hDependency : IsBareText "dependency".toList :=
        .of_all (by decide) (by decide)
      have hLine :=
        Reads.line
          (isLine_assignment hDependency isValue_noElements) Reads.nil
      have hText :
          "dependency = []\n".toList =
            "dependency".toList ++ equalsSign ++ ['[', ']'] ++ ['\n'] := by
        decide
      rw [String.ofList_toList] at hLine
      rw [String.toList_append]
      refine reads_front ?_
      rw [hText]
      exact hLine
  | cons e es =>
      rw [String.toList_append]
      exact reads_front (reads_entryTables (e :: es))

------------------------------------------------------------
-- Tables
------------------------------------------------------------

/- The entries of a table of texts. -/
def textItems (texts : List (String × String)) : Entries :=
  texts.map fun entry => (entry.1, .text entry.2)

/- The root table, when it lists some elements. -/
def rootOf (elements : List Entries) : Entries :=
  ("version", .integer 1) ::
    match elements with
    | [] => []
    | elements => [("dependency", .tables elements)]

theorem rootOf_append
    (elements : List Entries)
    (last : Entries) :
    rootOf (elements ++ [last]) =
      [("version", .integer 1),
        ("dependency", .tables (elements ++ [last]))] := by
  cases elements with
  | nil => rfl
  | cons e es => rfl

/- Each header adds an empty table to the list. -/
theorem openElement?_rootOf (elements : List Entries) :
    openElement? ["dependency"] (rootOf elements) =
      some (rootOf (elements ++ [[]])) := by
  rw [rootOf_append]
  cases elements with
  | nil => rfl
  | cons e es => rfl

/- An assignment goes to the last table of the list. -/
theorem assignUnder?_rootOf
    (elements : List Entries)
    {last : Entries}
    {key : String}
    (hFresh : key ∉ last.map (·.1))
    (item : Item) :
    assignUnder? ["dependency"] [key] item
        (rootOf (elements ++ [last])) =
      some (rootOf (elements ++ [last ++ [(key, item)]])) := by
  have hAssign : assign? [key] item last = some (last ++ [(key, item)]) := by
    have hLookup : last.lookup key = none := by
      rw [List.lookup_eq_none_iff]
      intro entry hMem
      have hNe : key ≠ entry.1 := by
        intro hEq
        exact hFresh (hEq ▸ List.mem_map_of_mem hMem)
      simpa using hNe
    unfold assign?
    rw [if_pos rfl, hLookup]
  rw [rootOf_append, rootOf_append]
  unfold assignUnder?
  simp [changeAt?, List.lookup_cons, hAssign, setEntry]

theorem perform?_texts
    (elements : List Entries)
    {texts : List (String × String)}
    {last : Entries}
    (hFresh : (last.map (·.1) ++ texts.map (·.1)).Nodup)
    (rest : List Statement) :
    perform? (texts.map textStatement ++ rest) ["dependency"]
        (rootOf (elements ++ [last])) =
      perform? rest ["dependency"]
        (rootOf (elements ++ [last ++ textItems texts])) := by
  induction texts generalizing last with
  | nil => simp [textItems]
  | cons entry texts ih =>
      have hKey : entry.1 ∉ last.map (·.1) := by
        intro hMem
        have hApart := (List.nodup_append.mp hFresh).2.2
        exact hApart _ hMem _ List.mem_cons_self rfl
      have hAssign :=
        assignUnder?_rootOf elements hKey (.text entry.2)
      have hNext :
          ((last ++ [(entry.1, Item.text entry.2)]).map (·.1) ++
            texts.map (·.1)).Nodup := by
        simpa using hFresh
      have hRest := ih hNext
      simp only [List.map_cons, List.cons_append, textStatement,
        perform?, hAssign]
      rw [hRest]
      simp [textItems]

theorem nodup_entryTexts (e : LockEntry) :
    ((entryTexts e).map (·.1)).Nodup := by
  unfold entryTexts
  cases e.package.checksum with
  | none => simp
  | some sum => simp

/- The statements of entries add a table for each of them. -/
theorem perform?_entries
    (es : List LockEntry)
    (elements : List Entries)
    (path : List String) :
    perform? (es.flatMap entryStatements) path (rootOf elements) =
      some (rootOf
        (elements ++ es.map fun e => textItems (entryTexts e))) := by
  induction es generalizing elements path with
  | nil => simp [perform?]
  | cons e es ih =>
      have hFresh :
          (List.map (·.1) ([] : Entries) ++
            (entryTexts e).map (·.1)).Nodup := by
        simpa using nodup_entryTexts e
      have hTexts :=
        perform?_texts elements hFresh (es.flatMap entryStatements)
      rw [List.flatMap_cons, entryStatements, List.cons_append, perform?,
        openElement?_rootOf]
      dsimp only
      rw [hTexts, ih]
      simp

/- The root table of a file of entries. -/
theorem read?_fileText (es : List LockEntry) :
    Toml.read? (fileText es) =
      match es with
      | [] => some [("version", .integer 1), ("dependency", .array [])]
      | es => some (rootOf (es.map fun e => textItems (entryTexts e))) := by
  have hMark :
      dropByteOrderMark (fileText es).toList = (fileText es).toList := by
    unfold fileText
    rw [String.toList_append, String.toList_append]
    rfl
  rw [read?_of_reads hMark (reads_fileText es)]
  unfold fileStatements
  cases es with
  | nil => rfl
  | cons e es =>
      have hFirst :
          assignUnder? [] ["version"] (.integer 1) [] =
            some (rootOf []) :=
        rfl
      simp only [perform?, hFirst]
      rw [perform?_entries]
      rfl

/- The value of a table of texts. -/
def textsDatum (texts : List (String × String)) : Datum :=
  .record (texts.map fun entry => (entry.1, .text entry.2))

/- The value of the file of a list of entries. -/
def fileDatum (es : List LockEntry) : Datum :=
  .record
    [("version", .integer 1),
      ("dependency", .list (es.map fun e => textsDatum (entryTexts e)))]

theorem entriesToFields_textItems (texts : List (String × String)) :
    entriesToFields (textItems texts) =
      texts.map fun entry => (entry.1, .text entry.2) := by
  induction texts with
  | nil => rfl
  | cons entry texts ih =>
      have hRest := congrArg (List.cons (entry.1, Datum.text entry.2)) ih
      exact hRest

theorem elementsToData_map (es : List LockEntry) :
    elementsToData (es.map fun e => textItems (entryTexts e)) =
      es.map fun e => textsDatum (entryTexts e) := by
  induction es with
  | nil => rfl
  | cons e es ih =>
      rw [List.map_cons, elementsToData, ih, entriesToFields_textItems]
      rfl

/- A file without entries has the same value as a list of none. -/
theorem datum?_fileText (es : List LockEntry) :
    Toml.datum? (fileText es) = some (fileDatum es) := by
  unfold Toml.datum? fileDatum
  rw [read?_fileText]
  cases es with
  | nil => rfl
  | cons e es =>
      have hData := elementsToData_map (e :: es)
      rw [← hData]
      rfl

theorem datum?_render (s : LockSnapshot) :
    Toml.datum? s.render = some (fileDatum s.catalog.entries) :=
  datum?_fileText s.catalog.entries

------------------------------------------------------------
-- Entries
------------------------------------------------------------

theorem entryOfDatum_textsDatum (e : LockEntry) :
    entryOfDatum (textsDatum (entryTexts e)) = some e := by
  rcases e with ⟨coordinate, version, checksum⟩
  cases checksum with
  | none => rfl
  | some sum => rfl

theorem readAll_textsDatum (es : List LockEntry) :
    Datum.readAll entryOfDatum
        (es.map fun e => textsDatum (entryTexts e)) =
      some es := by
  induction es with
  | nil => rfl
  | cons e es ih =>
      rw [List.map_cons, Datum.readAll, entryOfDatum_textsDatum, ih]

theorem fileOfDatum_fileDatum (es : List LockEntry) :
    fileOfDatum (fileDatum es) = some (formatVersion, es) := by
  have hEntries := readAll_textsDatum es
  have hFields :
      (fileDatum es).fields? .lenient ["version", "dependency"] =
        some fun name =>
          [("version", .integer 1),
            ("dependency",
              .list (es.map fun e => textsDatum (entryTexts e)))].lookup
            name :=
    rfl
  have hVersion :
      Datum.bounded? (Nat.pow 2 32) (.integer 1) = some 1 := by
    decide
  have hList :
      Datum.list? entryOfDatum
          (.list (es.map fun e => textsDatum (entryTexts e))) =
        some es :=
    hEntries
  unfold fileOfDatum
  rw [hFields]
  simp [List.lookup_cons, Datum.required, hVersion, Datum.orElse, hList,
    formatVersion]

theorem checkEntry_eq_ok_iff (e : LockEntry) :
    checkEntry e = .ok () ↔
      SemVer.isVersion e.package.version = true := by
  unfold checkEntry
  by_cases hVersion : SemVer.isVersion e.package.version = true
  · simp [hVersion, withContext]
  · simp [hVersion, withContext]

/-
  A text is accepted if it lists entries in the known format,
  all with semantic versions; they make up the snapshot.
-/
theorem parse_eq_ok_iff
    {text : String}
    {s : LockSnapshot} :
    parse text = .ok s ↔
      ∃ es, (Toml.datum? text).bind fileOfDatum =
          some (formatVersion, es) ∧
        (∀ e ∈ es, SemVer.isVersion e.package.version = true) ∧
        s = { catalog := Catalog.ofEntries es } := by
  constructor
  · intro hParse
    rcases Except.bind_eq_ok hParse with ⟨⟨version, es⟩, hFile, hRest⟩
    rcases Except.bind_eq_ok hRest with ⟨_, hVersion, hRest⟩
    rcases Except.bind_eq_ok hRest with
      ⟨_, hEntries, hSnapshot⟩
    have hKnown := Checks.ensure_eq_ok hVersion
    have hSame : version = formatVersion := by simpa using hKnown
    subst hSame
    refine ⟨es, ?_, ?_, (Except.ok.inj hSnapshot).symm⟩
    · unfold Toml.decode at hFile
      split at hFile
      · next hRead => rw [hRead, Except.ok.inj hFile]
      · cases hFile
    · intro e hMem
      have hChecked := (Checks.checkAll_eq_ok_iff _ _).mp hEntries e hMem
      exact (checkEntry_eq_ok_iff e).mp hChecked
  · rintro ⟨es, hFile, hValid, hSnapshot⟩
    have hChecked : Checks.checkAll checkEntry es = .ok () := by
      rw [Checks.checkAll_eq_ok_iff]
      intro e hMem
      exact (checkEntry_eq_ok_iff e).mpr (hValid e hMem)
    have hDecode :
        Toml.decode fileOfDatum text = .ok (formatVersion, es) := by
      unfold Toml.decode
      rw [hFile]
    unfold parse
    rw [hDecode, hSnapshot]
    simp only [bind, Except.bind, hChecked]
    rfl

/- The versions of a snapshot that was read are semantic. -/
theorem isVersion_of_parse
    {text : String}
    {s : LockSnapshot}
    (hParse : parse text = .ok s) :
    ∀ e ∈ s.catalog.entries,
      SemVer.isVersion e.package.version = true := by
  rcases parse_eq_ok_iff.mp hParse with ⟨es, -, hValid, hSnapshot⟩
  intro e hMem
  rw [hSnapshot] at hMem
  exact hValid e (Catalog.mem_ofEntries.mp hMem)

theorem parse_render_of_valid
    {s : LockSnapshot}
    (hValid :
      ∀ e ∈ s.catalog.entries,
        SemVer.isVersion e.package.version = true) :
    parse s.render = .ok s := by
  rw [parse_eq_ok_iff]
  refine ⟨s.catalog.entries, ?_, hValid, ?_⟩
  · rw [datum?_render, Option.bind_some, fileOfDatum_fileDatum]
  · rw [Catalog.ofEntries_entries]

/-
  A snapshot is read back from the text it is rendered as,
  whether it was read itself or records a resolution with
  semantic versions.  Hence rendering what was read of a text
  changes nothing in what is read.
-/
theorem parse_render :
    (∀ text s, parse text = .ok s → parse s.render = .ok s) ∧
      (∀ g : ResolvedGraph,
        (∀ e ∈ g.catalog.entries,
          SemVer.isVersion e.package.version = true) →
        parse (ofGraph g).render = .ok (ofGraph g)) ∧
      ∀ text, (parse text >>= fun s => parse s.render) = parse text := by
  have hAgain :
      ∀ text s, parse text = .ok s → parse s.render = .ok s := by
    intro text s hParse
    exact parse_render_of_valid (isVersion_of_parse hParse)
  refine ⟨hAgain, ?_, ?_⟩
  · intro g hValid
    exact parse_render_of_valid hValid
  · intro text
    cases hParse : parse text with
    | error f => rfl
    | ok s => exact hAgain text s hParse

/- A resolution with a text for each of the forms of strings. -/
def sampleGraph : ResolvedGraph :=
  .ofEntries
    [{ coordinate := "serde"
       package := { version := "1.0.228", checksum := some "\\" } },
      { coordinate := "it's \"quoted\""
        package := { version := "2.0.0-rc.1", checksum := some "'\\" } },
      { coordinate := "\t"
        package := { version := "1.0.0", checksum := none } },
      { coordinate := "\x00\n"
        package := { version := "0.1.0+b", checksum := some "" } }]

theorem sample_parse_render :
    (∀ e ∈ sampleGraph.catalog.entries,
        SemVer.isVersion e.package.version = true) ∧
      parse (ofGraph sampleGraph).render = .ok (ofGraph sampleGraph) := by
  have hValid :
      ∀ e ∈ sampleGraph.catalog.entries,
        SemVer.isVersion e.package.version = true := by
    decide +kernel
  exact ⟨hValid, parse_render.2.1 sampleGraph hValid⟩

end LockSnapshot

end ReleasePipeline
