import InvestmentAssistant.Foundation.Text

/-!
# Reading comma-separated values

The state machine of a CSV reader with the default dialect: fields between commas, optionally in
double quotes, where a doubled quote stands for one. It reads a text line by line, each up to and
with its line feed, and a record may go over several lines inside quotes.

The reader fails in two cases: a carriage return outside quotes that something else than a line
break follows, and a field beyond the length limit.
-/

namespace Csv

/-- What the reader expects. -/
inductive State
  | startRecord
  | startField
  | inField
  | inQuotedField
  | quoteInQuotedField
  | eatCrnl
  deriving DecidableEq, Repr

/-- The reader in a record: its state, the fields read and the field being read. -/
structure Reader where
  state : State := .startRecord
  fields : List (List Char) := []
  field : List Char := []
  deriving DecidableEq, Repr

/-- The failures of the reader. -/
inductive Failure
  | newLineInUnquotedField
  | fieldLargerThanLimit
  deriving DecidableEq, Repr

/-- `field_size_limit()`. -/
def fieldSizeLimit : ℕ := 131072

namespace Reader

/-- The field is complete. -/
def saveField (r : Reader) (state : State) : Reader where
  state := state
  fields := r.fields ++ [r.field]

/-- A character of the field. -/
def addChar (r : Reader) (state : State) (c : Char) : Except Failure Reader :=
  if fieldSizeLimit ≤ r.field.length then .error .fieldLargerThanLimit
  else .ok { r with state := state, field := r.field ++ [c] }

/-- A character at the start of a field. -/
def startField (r : Reader) (c : Char) : Except Failure Reader :=
  if c = '\n' ∨ c = '\r' then .ok (r.saveField .eatCrnl)
  else if c = '\"' then .ok { r with state := .inQuotedField }
  else if c = ',' then .ok (r.saveField .startField)
  else r.addChar .inField c

/-- One character. -/
def readChar (r : Reader) (c : Char) : Except Failure Reader :=
  match r.state with
  | .startRecord =>
    if c = '\n' ∨ c = '\r' then .ok { r with state := .eatCrnl } else r.startField c
  | .startField => r.startField c
  | .inField =>
    if c = '\n' ∨ c = '\r' then .ok (r.saveField .eatCrnl)
    else if c = ',' then .ok (r.saveField .startField)
    else r.addChar .inField c
  | .inQuotedField =>
    if c = '\"' then .ok { r with state := .quoteInQuotedField } else r.addChar .inQuotedField c
  | .quoteInQuotedField =>
    if c = '\"' then r.addChar .inQuotedField c
    else if c = ',' then .ok (r.saveField .startField)
    else if c = '\n' ∨ c = '\r' then .ok (r.saveField .eatCrnl)
    else r.addChar .inField c
  | .eatCrnl =>
    if c = '\n' ∨ c = '\r' then .ok r else .error .newLineInUnquotedField

/-- The end of a line. -/
def endLine (r : Reader) : Reader :=
  match r.state with
  | .startRecord | .inQuotedField => r
  | .startField | .inField | .quoteInQuotedField => r.saveField .startRecord
  | .eatCrnl => { r with state := .startRecord }

/-- One line. -/
def readLine (r : Reader) (line : List Char) : Except Failure Reader :=
  endLine <$> line.foldlM readChar r

end Reader

/-- The lines of a text, each with its line feed. -/
def lines : List Char → List (List Char)
  | [] => []
  | c :: text =>
    if c = '\n' then [c] :: lines text
    else
      match lines text with
      | [] => [[c]]
      | line :: rest => (c :: line) :: rest

/-- The records of the lines, from a reader on. -/
def readRecords (r : Reader) : List (List Char) → Except Failure (List (List String))
  | [] =>
    .ok (if r.field ≠ [] ∨ r.state = .inQuotedField then
      [(r.saveField .startRecord).fields.map String.ofList] else [])
  | line :: rest => do
    let r ← r.readLine line
    if r.state = .startRecord then
      return r.fields.map String.ofList :: (← readRecords {} rest)
    else readRecords r rest

/-- `list(csv.reader(io.StringIO(text)))`. -/
def records (text : String) : Except Failure (List (List String)) :=
  readRecords {} (lines text.toList)

example : records "a,\"b\"\"\n,c\"\n\nd" = .ok [["a", "b\"\n,c"], [], ["d"]] := by decide

example : records "a\rb" = .error .newLineInUnquotedField := by decide

/-! ### Texts that are read -/

/-- A line feed or a carriage return. -/
def IsBreak (c : Char) : Prop :=
  c = '\n' ∨ c = '\r'

/-- Behind a break in a line only breaks follow. -/
def EndsLine (c d : Char) : Prop :=
  IsBreak c → IsBreak d

namespace Reader

variable {r : Reader}

/-- What a character that does not stop the reader does to it. -/
structure Advances (r : Reader) (c : Char) (r' : Reader) : Prop where
  isBreak : r'.state = .eatCrnl → IsBreak c
  length_le : r'.field.length ≤ r.field.length + 1

theorem advances_saveField {c : Char} {state : State} (h : state = .eatCrnl → IsBreak c) :
    r.Advances c (r.saveField state) :=
  ⟨h, Nat.zero_le _⟩

theorem advances_setState {c : Char} {state : State} (h : state = .eatCrnl → IsBreak c) :
    r.Advances c { r with state := state } :=
  ⟨h, Nat.le_succ _⟩

/-- Within the limit a character can be added to the field. -/
theorem exists_addChar (hlt : r.field.length < fieldSizeLimit) (state : State)
    (hstate : state ≠ .eatCrnl) (c : Char) :
    ∃ r', r.addChar state c = .ok r' ∧ r.Advances c r' := by
  refine ⟨_, if_neg (Nat.not_le.2 hlt), fun h ↦ absurd h hstate, ?_⟩
  exact Nat.le_of_eq List.length_append

theorem exists_startField (hlt : r.field.length < fieldSizeLimit) (c : Char) :
    ∃ r', r.startField c = .ok r' ∧ r.Advances c r' := by
  rw [startField]
  split
  · next h => exact ⟨_, rfl, advances_saveField fun _ ↦ h⟩
  split
  · exact ⟨_, rfl, advances_setState nofun⟩
  split
  · exact ⟨_, rfl, advances_saveField nofun⟩
  · exact exists_addChar hlt .inField nofun c

/-- Within the limit a character stops the reader only where it waits for the end of the line. -/
theorem exists_readChar (hlt : r.field.length < fieldSizeLimit) {c : Char}
    (hc : r.state = .eatCrnl → IsBreak c) : ∃ r', r.readChar c = .ok r' ∧ r.Advances c r' := by
  rw [readChar]
  split
  · split
    · next h => exact ⟨_, rfl, advances_setState fun _ ↦ h⟩
    · exact exists_startField hlt c
  · exact exists_startField hlt c
  · split
    · next h => exact ⟨_, rfl, advances_saveField fun _ ↦ h⟩
    split
    · exact ⟨_, rfl, advances_saveField nofun⟩
    · exact exists_addChar hlt .inField nofun c
  · split
    · exact ⟨_, rfl, advances_setState nofun⟩
    · exact exists_addChar hlt .inQuotedField nofun c
  · split
    · exact exists_addChar hlt .inQuotedField nofun c
    split
    · exact ⟨_, rfl, advances_saveField nofun⟩
    split
    · next h => exact ⟨_, rfl, advances_saveField fun _ ↦ h⟩
    · exact exists_addChar hlt .inField nofun c
  · next h =>
    exact ⟨r, if_pos (hc h), hc, Nat.le_succ _⟩

/-- The characters of a line in which only breaks follow a break are read. -/
theorem exists_foldlM_readChar {line : List Char} (hline : line.IsChain EndsLine)
    (hhead : r.state = .eatCrnl → ∀ c ∈ line.head?, IsBreak c)
    (hlen : r.field.length + line.length ≤ fieldSizeLimit) :
    ∃ r', line.foldlM readChar r = .ok r' ∧
      r'.field.length ≤ r.field.length + line.length := by
  induction line generalizing r with
  | nil => exact ⟨r, rfl, Nat.le_refl _⟩
  | cons c line ih =>
    rw [List.length_cons] at hlen
    obtain ⟨hnext, hrest⟩ := List.isChain_cons.1 hline
    obtain ⟨r₁, hr₁, hadvances⟩ :=
      exists_readChar (r := r) (by omega) fun h ↦ hhead h c rfl
    have hlength := hadvances.length_le
    obtain ⟨r', hr', hle⟩ :=
      ih (r := r₁) hrest (fun h d hd ↦ hnext d hd (hadvances.isBreak h)) (by omega)
    refine ⟨r', ?_, by rw [List.length_cons]; omega⟩
    rw [List.foldlM_cons, hr₁]
    exact hr'

/-- At the end of a line the reader does not wait for it. -/
theorem endLine_state_ne (r : Reader) : r.endLine.state ≠ .eatCrnl := by
  rw [endLine]
  split
  · next h => exact fun h' ↦ nomatch h.symm.trans h'
  · next h => exact fun h' ↦ nomatch h.symm.trans h'
  all_goals exact nofun

theorem length_field_endLine_le (r : Reader) : r.endLine.field.length ≤ r.field.length := by
  rw [endLine]
  split
  case h_1 | h_2 | h_6 => exact Nat.le_refl _
  all_goals exact Nat.zero_le _

/-- A line in which only breaks follow a break is read. -/
theorem exists_readLine {line : List Char} (hline : line.IsChain EndsLine)
    (hstate : r.state ≠ .eatCrnl) (hlen : r.field.length + line.length ≤ fieldSizeLimit) :
    ∃ r', r.readLine line = .ok r' ∧ r'.state ≠ .eatCrnl ∧
      r'.field.length ≤ r.field.length + line.length := by
  obtain ⟨r', hr', hle⟩ := exists_foldlM_readChar hline (fun h ↦ absurd h hstate) hlen
  refine ⟨r'.endLine, ?_, endLine_state_ne r', Nat.le_trans (length_field_endLine_le r') hle⟩
  rw [readLine, hr']
  rfl

end Reader

/-- The first line of a text begins with its first character. -/
theorem exists_lines_cons (c : Char) (text : List Char) :
    ∃ line rest, lines (c :: text) = (c :: line) :: rest := by
  rw [lines]
  split
  · exact ⟨_, _, rfl⟩
  split
  · exact ⟨_, _, rfl⟩
  · exact ⟨_, _, rfl⟩

theorem flatten_lines (text : List Char) : (lines text).flatten = text := by
  induction text with
  | nil => rfl
  | cons c text ih =>
    rw [lines]
    split
    · rw [List.flatten_cons, ih]
      rfl
    split
    · next h =>
      rw [h] at ih
      rw [← ih]
      rfl
    · next h =>
      rw [h] at ih
      rw [← ih]
      rfl

/-- Every carriage return of a text is before a break, or at the end. -/
def ReturnsBeforeBreaks (text : List Char) : Prop :=
  text.IsChain fun c d ↦ c = '\r' → IsBreak d

/-- Then only breaks follow a break in its lines. -/
theorem isChain_of_mem_lines {text : List Char} (h : ReturnsBeforeBreaks text) :
    ∀ line ∈ lines text, line.IsChain EndsLine := by
  induction text with
  | nil => exact fun line hline ↦ absurd hline List.not_mem_nil
  | cons c text ih =>
    obtain ⟨hnext, hrest⟩ := List.isChain_cons.1 h
    have ih := ih hrest
    rw [lines]
    split
    · exact List.forall_mem_cons.2 ⟨.singleton c, ih⟩
    next hc =>
    rcases text with - | ⟨d, text⟩
    · exact List.forall_mem_cons.2 ⟨.singleton c, ih⟩
    obtain ⟨line, rest, hlines⟩ := exists_lines_cons d text
    rw [hlines] at ih ⊢
    obtain ⟨hline, hrest⟩ := List.forall_mem_cons.1 ih
    refine List.forall_mem_cons.2 ⟨List.isChain_cons.2 ⟨?_, hline⟩, hrest⟩
    rintro e he hbreak
    obtain rfl := Option.some.inj he
    exact hnext d rfl (hbreak.resolve_left hc)

theorem exists_readRecords {r : Reader} {lines : List (List Char)}
    (hlines : ∀ line ∈ lines, line.IsChain EndsLine) (hstate : r.state ≠ .eatCrnl)
    (hlen : r.field.length + lines.flatten.length ≤ fieldSizeLimit) :
    ∃ records, readRecords r lines = .ok records := by
  induction lines generalizing r with
  | nil => exact ⟨_, rfl⟩
  | cons line rest ih =>
    obtain ⟨hline, hrest⟩ := List.forall_mem_cons.1 hlines
    rw [List.flatten_cons, List.length_append] at hlen
    obtain ⟨r', hr', hstate', hle⟩ := Reader.exists_readLine hline hstate (by omega)
    obtain ⟨records, hrecords⟩ := ih (r := r') hrest hstate' (by omega)
    have hnew : ∃ records, readRecords {} rest = .ok records :=
      ih hrest nofun (by change 0 + rest.flatten.length ≤ fieldSizeLimit; omega)
    obtain ⟨newRecords, hnewRecords⟩ := hnew
    rw [readRecords, hr']
    by_cases hdone : r'.state = .startRecord
    · refine ⟨r'.fields.map String.ofList :: newRecords, ?_⟩
      simp only [bind, Except.bind, if_pos hdone, hnewRecords]
      rfl
    · refine ⟨records, ?_⟩
      simp only [bind, Except.bind, if_neg hdone, hrecords]

/-- **A text is read** if every carriage return in it is before a break, and it is not longer than a
field may be. -/
theorem exists_records {text : String} (h : ReturnsBeforeBreaks text.toList)
    (hlen : text.toList.length ≤ fieldSizeLimit) : ∃ result, records text = .ok result := by
  refine exists_readRecords (isChain_of_mem_lines h) nofun ?_
  rw [flatten_lines]
  change 0 + text.toList.length ≤ fieldSizeLimit
  omega

/-! ### The records before a failure -/

/-- The records of the lines, as a loop over the reader gets them: those before the failure, and the
failure, if there is one. -/
def streamRecords (r : Reader) : List (List Char) → List (List String) × Option Failure
  | [] =>
    (if r.field ≠ [] ∨ r.state = .inQuotedField then
      [(r.saveField .startRecord).fields.map String.ofList] else [], none)
  | line :: rest =>
    match r.readLine line with
    | .error e => ([], some e)
    | .ok r =>
      if r.state = .startRecord then
        let further := streamRecords {} rest
        (r.fields.map String.ofList :: further.1, further.2)
      else streamRecords r rest

/-- A loop over `csv.reader(io.StringIO(text))`. -/
def stream (text : String) : List (List String) × Option Failure :=
  streamRecords {} (lines text.toList)

/-- Without a failure a loop gets all records. -/
theorem readRecords_eq_of_stream {r : Reader} {lines : List (List Char)}
    {rows : List (List String)} (h : streamRecords r lines = (rows, none)) :
    readRecords r lines = .ok rows := by
  induction lines generalizing r rows with
  | nil =>
    obtain ⟨rfl, -⟩ := Prod.mk.inj h
    rfl
  | cons line rest ih =>
    rw [streamRecords] at h
    rw [readRecords]
    rcases hr' : r.readLine line with e | r'
    · rw [hr'] at h
      cases h
    rw [hr'] at h
    by_cases hdone : r'.state = .startRecord
    · simp only [if_pos hdone] at h
      obtain ⟨rfl, hnone⟩ := Prod.mk.inj h
      simp only [bind, Except.bind, if_pos hdone, ih (Prod.ext rfl hnone)]
      rfl
    · simp only [if_neg hdone] at h
      simp only [bind, Except.bind, if_neg hdone, ih h]

theorem records_eq_of_stream {text : String} {rows : List (List String)}
    (h : stream text = (rows, none)) : records text = .ok rows :=
  readRecords_eq_of_stream h

/-! ### Plain tables -/

/-- A field that is written as it is, without quotes. -/
structure IsPlain (field : List Char) : Prop where
  ne_nil : field ≠ []
  plain : ∀ c ∈ field, c ∉ [',', '\"', '\n', '\r']
  length_le : field.length ≤ fieldSizeLimit

/-- The text of a table: the fields between commas, each row on a line. -/
def tableText (rows : List (List (List Char))) : List Char :=
  (rows.map fun row ↦ [','].intercalate row ++ ['\n']).flatten

namespace Reader

variable {r : Reader}

/-- A plain character is added to the field. -/
theorem readChar_of_plain {c : Char} (hc : c ∉ [',', '\"', '\n', '\r'])
    (hstate : r.state ∈ [.startRecord, .startField, .inField])
    (hlt : r.field.length < fieldSizeLimit) :
    r.readChar c = .ok { r with state := .inField, field := r.field ++ [c] } := by
  simp only [List.mem_cons, List.not_mem_nil, or_false, not_or] at hc
  obtain ⟨hcomma, hquote, hfeed, hreturn⟩ := hc
  have hbreak : ¬ (c = '\n' ∨ c = '\r') := not_or.2 ⟨hfeed, hreturn⟩
  have hadd : r.addChar .inField c = .ok { r with state := .inField, field := r.field ++ [c] } :=
    if_neg (Nat.not_le.2 hlt)
  have hstart : r.startField c = .ok { r with state := .inField, field := r.field ++ [c] } := by
    rw [startField, if_neg hbreak, if_neg hquote, if_neg hcomma, hadd]
  rw [readChar]
  simp only [List.mem_cons, List.not_mem_nil, or_false] at hstate
  rcases hstate with h | h | h <;> rw [h] <;> dsimp only
  · rw [if_neg hbreak, hstart]
  · rw [hstart]
  · rw [if_neg hbreak, if_neg hcomma, hadd]

/-- A plain field is added, from its second character on. -/
theorem foldlM_readChar_of_plain {field : List Char}
    (hplain : ∀ c ∈ field, c ∉ [',', '\"', '\n', '\r']) (hstate : r.state = .inField)
    (hlen : r.field.length + field.length ≤ fieldSizeLimit) :
    field.foldlM readChar r = .ok { r with field := r.field ++ field } := by
  induction field generalizing r with
  | nil =>
    rw [List.append_nil]
    rfl
  | cons c field ih =>
    obtain ⟨hc, hfield⟩ := List.forall_mem_cons.1 hplain
    rw [List.length_cons] at hlen
    have hread := readChar_of_plain hc (by simp [hstate]) (show r.field.length < _ by omega)
    rw [List.foldlM_cons, hread]
    have hlen' : (r.field ++ [c]).length = r.field.length + 1 := by simp
    refine (ih hfield rfl (by rw [hlen']; omega)).trans ?_
    rw [List.append_assoc, List.singleton_append, hstate]

theorem foldlM_readChar_field {field : List Char} (hfield : IsPlain field)
    (hstate : r.state ∈ [.startRecord, .startField]) (hempty : r.field = []) :
    field.foldlM readChar r = .ok { r with state := .inField, field := field } := by
  obtain ⟨c, rest, rfl⟩ := List.exists_cons_of_ne_nil hfield.ne_nil
  obtain ⟨hc, hrest⟩ := List.forall_mem_cons.1 hfield.plain
  have hlen := hfield.length_le
  rw [List.length_cons] at hlen
  have hstate' : r.state ∈ [.startRecord, .startField, .inField] :=
    show r.state ∈ [.startRecord, .startField] ++ [.inField] from List.mem_append_left _ hstate
  have hread := readChar_of_plain hc hstate' (by rw [hempty, List.length_nil]; omega)
  rw [hempty, List.nil_append] at hread
  rw [List.foldlM_cons, hread]
  exact foldlM_readChar_of_plain hrest rfl (by simp only [List.length_singleton]; omega)

/-- The fields of a plain row are read one by one. -/
theorem foldlM_readChar_row {row : List (List Char)} (hne : row ≠ [])
    (hrow : ∀ field ∈ row, IsPlain field) (hstate : r.state ∈ [.startRecord, .startField])
    (hempty : r.field = []) :
    ([','].intercalate row ++ ['\n']).foldlM readChar r =
      .ok { state := .eatCrnl, fields := r.fields ++ row } := by
  induction row generalizing r with
  | nil => exact absurd rfl hne
  | cons field row ih =>
    obtain ⟨hfield, hrow⟩ := List.forall_mem_cons.1 hrow
    have hread := foldlM_readChar_field hfield hstate hempty
    rcases row with - | ⟨next, row⟩
    · rw [List.intercalate_singleton, List.foldlM_append, hread]
      rfl
    · rw [List.intercalate_cons_cons, List.append_assoc, List.append_assoc, List.foldlM_append,
        hread]
      change ([','].intercalate (next :: row) ++ ['\n']).foldlM readChar
        { state := .startField, fields := r.fields ++ [field], field := [] } = _
      rw [ih (List.cons_ne_nil _ _) hrow (by simp) rfl, List.append_assoc]
      rfl

theorem readLine_row {row : List (List Char)} (hne : row ≠ [])
    (hrow : ∀ field ∈ row, IsPlain field) :
    readLine {} ([','].intercalate row ++ ['\n']) = .ok { fields := row } := by
  rw [readLine, foldlM_readChar_row hne hrow (by simp) rfl]
  rfl

end Reader

/-- A text up to its first line feed is a line. -/
theorem lines_append {line : List Char} (h : '\n' ∉ line) (text : List Char) :
    lines (line ++ '\n' :: text) = (line ++ ['\n']) :: lines text := by
  induction line with
  | nil => rw [List.nil_append, lines, if_pos rfl, List.nil_append]
  | cons c line ih =>
    rw [List.mem_cons, not_or] at h
    rw [List.cons_append, lines, if_neg (Ne.symm h.1), ih h.2]
    rfl

/-- No line feed stands in a plain row. -/
theorem feed_notMem_intercalate {row : List (List Char)} (hrow : ∀ field ∈ row, IsPlain field) :
    '\n' ∉ [','].intercalate row := by
  intro hmem
  obtain heq | ⟨field, hfield, hc⟩ := Text.mem_intercalate hmem
  · exact absurd heq (by decide)
  · exact (hrow field hfield).plain _ hc (by decide)

/-- The rows of a table are its lines also for a reader that knows further line boundaries, when no
row has one. -/
theorem splitOnP_tableText {boundary : Char → Bool} (hfeed : boundary '\n' = true)
    {rows : List (List (List Char))}
    (hrows : ∀ row ∈ rows, ∀ c ∈ [','].intercalate row, boundary c = false) :
    (tableText rows).splitOnP boundary = rows.map [','].intercalate ++ [[]] := by
  induction rows with
  | nil => rfl
  | cons row rows ih =>
    obtain ⟨hrow, hrows⟩ := List.forall_mem_cons.1 hrows
    rw [tableText, List.map_cons, List.flatten_cons, List.append_assoc, List.singleton_append,
      List.splitOnP_append_cons_of_forall_mem hrow _ hfeed]
    exact congrArg _ (ih hrows)

/-- **A plain table is read as it was written.** -/
theorem stream_tableText {rows : List (List (List Char))}
    (hrows : ∀ row ∈ rows, row ≠ [] ∧ ∀ field ∈ row, IsPlain field) :
    stream (String.ofList (tableText rows)) = (rows.map fun row ↦ row.map String.ofList, none) := by
  rw [stream, String.toList_ofList]
  induction rows with
  | nil => rfl
  | cons row rows ih =>
    obtain ⟨⟨hne, hrow⟩, hrows⟩ := List.forall_mem_cons.1 hrows
    have hlines : lines (tableText (row :: rows)) =
        ([','].intercalate row ++ ['\n']) :: lines (tableText rows) := by
      rw [tableText, List.map_cons, List.flatten_cons, List.append_assoc, List.singleton_append]
      exact lines_append (feed_notMem_intercalate hrow) _
    rw [hlines, streamRecords, Reader.readLine_row hne hrow]
    dsimp only
    rw [if_pos rfl, ih hrows]
    rfl

end Csv
