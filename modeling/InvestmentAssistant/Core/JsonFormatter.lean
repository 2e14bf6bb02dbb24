import InvestmentAssistant.Core.LoggingConfig
import InvestmentAssistant.Foundation.SelfDelimiting

/-!
# JSON log lines

`JSONFormatter` writes a record as one JSON object. The message is rendered from a template and the
arguments, and sanitised; the arguments are written once more, each sanitised on its own.

On its own a value has no key beside it, so nothing tells that it is a secret. The line is a
self-delimiting code of its fields (`dumps_injective`), and hence shows every argument that
sanitising leaves as it is: no template keeps the line independent of its argument
(`line_eq_iff_and_not_independent`).
-/

namespace InvestmentAssistant

/-! ### Sanitising -/

/-- `_SENSITIVE_KEYS`. -/
def redactedKeys : List String :=
  ["password", "secret", "token", "api_key", "apikey", "authorization", "cookie", "credit_card",
    "twelve_data_api_key", "fmp_api_key", "fred_api_key", "redis_password", "database_url"]

/-- The lower case of a character. No character but a capital letter, `İ` and the Kelvin sign has a
letter of a key in its lower case; the others are left as they are. -/
def lowerChar (c : Char) : List Char :=
  if c.toNat = 0x130 then ['i', Char.ofNat 0x307]
  else if c.toNat = 0x212A then ['k']
  else [c.toLower]

/-- `_sanitize`. -/
def sanitize (text : String) : String :=
  let masked := sanitizeLogMessage text
  let textLower := masked.toList.flatMap lowerChar
  if redactedKeys.any fun key ↦ decide (key.toList <:+: textLower) then
    "[REDACTED - contains sensitive key]"
  else masked

/-! ### Records -/

/-- The arguments of a record, as `str` prints them. -/
inductive LogArgs
  | positional (args : List String)
  | mapping (args : List (String × String))
  deriving DecidableEq, Repr

/-- A record, and the time it is formatted at. -/
structure LogRecord where
  timestamp : String
  levelname : String
  name : String
  msg : String
  args : LogArgs
  correlationId : Option String := none
  /-- The formatted traceback. -/
  excInfo : Option String := none
  deriving DecidableEq, Repr

/-- How far a conversion has been read, from its `%` on. -/
inductive ConversionPart
  | start
  | flags
  | width
  | precision
  | length
  deriving DecidableEq, Repr

/-- A flag, a digit of the width or the precision, or a length, where it may stand. -/
def ConversionPart.next (part : ConversionPart) (c : Char) : Option ConversionPart :=
  if part = .length then none
  else if c = 'h' ∨ c = 'l' ∨ c = 'L' then some .length
  else if part = .precision then if c.isDigit then some .precision else none
  else if c = '.' then some .precision
  else if part = .width then if c.isDigit then some .width else none
  else if c = '-' ∨ c = '+' ∨ c = ' ' ∨ c = '#' ∨ c = '0' then some .flags
  else if c.isDigit then some .width
  else none

/-- `msg % args` with arguments in a row, for templates of texts, `%s`, and `%%` with whatever may
stand between its signs. Any other conversion gives nothing here; beside a `%s` with the only
argument, it raises. The first argument is the conversion that is being read. -/
def renderPositional : Option ConversionPart → List Char → List String → Option (List Char)
  | none, [], args => if args = [] then some [] else none
  | some _, [], _ => none
  | none, c :: template, args =>
    if c = '%' then renderPositional (some .start) template args
    else (c :: ·) <$> renderPositional none template args
  | some part, c :: template, args =>
    if c = '%' then ('%' :: ·) <$> renderPositional none template args
    else if part = .start ∧ c = 's' then
      args.head?.bind fun arg ↦ (arg.toList ++ ·) <$> renderPositional none template args.tail
    else
      match part.next c with
      | none => none
      | some part => renderPositional (some part) template args

/-- `msg % args` with a dictionary, for templates of texts, `%(key)s` and `%%`; `key` is what has
been read of a key. -/
def renderMapping (args : List (String × String)) : Option (List Char) → List Char →
    Option (List Char)
  | none, [] => some []
  | some _, [] => none
  | none, '%' :: '%' :: template => ('%' :: ·) <$> renderMapping args none template
  | none, '%' :: '(' :: template => renderMapping args (some []) template
  | none, '%' :: _ => none
  | none, c :: template => (c :: ·) <$> renderMapping args none template
  | some key, ')' :: 's' :: template =>
    (args.lookup (String.ofList key)).bind fun value ↦
      (value.toList ++ ·) <$> renderMapping args none template
  | some _, ')' :: _ => none
  | some key, c :: template => renderMapping args (some (key ++ [c])) template

/-- `getMessage`: without arguments the template is the message. -/
def LogRecord.getMessage (record : LogRecord) : Option String :=
  match record.args with
  | .positional [] | .mapping [] => some record.msg
  | .positional args => String.ofList <$> renderPositional none record.msg.toList args
  | .mapping args => String.ofList <$> renderMapping args none record.msg.toList

/-! ### JSON -/

/-- A value of the payload. -/
inductive PayloadValue
  | text (s : String)
  | list (items : List String)
  | object (items : List (String × String))
  deriving DecidableEq, Repr

/-- A character in a JSON string, with `ensure_ascii=False`. -/
def escapeChar (c : Char) : List Char :=
  if c = '\"' then ['\\', '\"']
  else if c = '\\' then ['\\', '\\']
  else if c = '\n' then ['\\', 'n']
  else if c = '\r' then ['\\', 'r']
  else if c = '\t' then ['\\', 't']
  else if c.toNat = 0x08 then ['\\', 'b']
  else if c.toNat = 0x0C then ['\\', 'f']
  else if c.toNat < 0x20 then
    ['\\', 'u', '0', '0', Nat.digitChar (c.toNat / 16), Nat.digitChar (c.toNat % 16)]
  else [c]

/-- A JSON string. -/
def dumpsString (s : String) : List Char :=
  '\"' :: encodeUntil ['\"'] escapeChar s.toList

/-- A JSON array or object: the brackets, and the items with a comma between them. -/
def dumpsItems {α : Type} (opening closing : Char) (dumps : α → List Char) : List α → List Char
  | [] => [opening, closing]
  | a :: as => opening :: (dumps a ++ encodeUntil [closing] (fun a ↦ ", ".toList ++ dumps a) as)

/-- One member of a JSON object. -/
def dumpsMember {α : Type} (dumps : α → List Char) (member : String × α) : List Char :=
  dumpsString member.1 ++ (": ".toList ++ dumps member.2)

/-- A value of the payload. -/
def dumpsValue : PayloadValue → List Char
  | .text s => dumpsString s
  | .list items => dumpsItems '[' ']' dumpsString items
  | .object items => dumpsItems '\x7b' '\x7d' (dumpsMember dumpsString) items

/-- `json.dumps(payload, ensure_ascii=False)`. -/
def dumps (payload : List (String × PayloadValue)) : String :=
  String.ofList (dumpsItems '\x7b' '\x7d' (dumpsMember dumpsValue) payload)

/-! ### The formatter -/

/-- The arguments of the payload, if there are any. -/
def safeArgs : LogArgs → List (String × PayloadValue)
  | .positional [] | .mapping [] => []
  | .positional args => [("args", .list (args.map sanitize))]
  | .mapping args => [("args", .object (args.map fun arg ↦ (arg.1, sanitize arg.2)))]

/-- The payload of a record with this message. -/
def payload (record : LogRecord) (message : String) : List (String × PayloadValue) :=
  [("timestamp", .text record.timestamp), ("level", .text record.levelname),
    ("logger", .text record.name), ("message", .text (sanitize message))] ++
  (match record.correlationId with
    | none | some "" => []
    | some correlationId => [("correlation_id", .text correlationId)]) ++
  (record.excInfo.toList.map fun excInfo ↦ ("exception", .text (sanitize excInfo))) ++
  safeArgs record.args

/-- `JSONFormatter.format`; a template that does not take the arguments raises. -/
def jsonFormat (record : LogRecord) : Option String :=
  record.getMessage.map fun message ↦ dumps (payload record message)

/-! ### A line determines its payload -/

/-- The characters with an escape sequence. -/
def escapedChars : List Char :=
  (List.range 32).map Char.ofNat ++ ['\"', '\\']

/-- Any other character stands for itself. -/
theorem escapeChar_of_notMem {c : Char} (h : c ∉ escapedChars) :
    escapeChar c = [c] ∧ c ≠ '\\' ∧ c ≠ '\"' := by
  have hne : ∀ d ∈ escapedChars, c ≠ d := fun d hd heq ↦ h (heq ▸ hd)
  have hlow : ¬ c.toNat < 0x20 := by
    intro hlt
    refine h (List.mem_append_left _ (List.mem_map.2 ⟨c.toNat, List.mem_range.2 hlt, ?_⟩))
    exact Char.ofNat_toNat c
  have hquote : c ≠ '\"' := hne _ (by decide)
  have hbackslash : c ≠ '\\' := hne _ (by decide)
  refine ⟨?_, hbackslash, hquote⟩
  rw [escapeChar, if_neg hquote, if_neg hbackslash, if_neg (hne _ (by decide)),
    if_neg (hne _ (by decide)), if_neg (hne _ (by decide)), if_neg (by omega), if_neg (by omega),
    if_neg hlow]

/-- An escape sequence begins with a backslash. -/
theorem exists_escapeChar_eq {c : Char} (h : c ∈ escapedChars) :
    ∃ d rest, escapeChar c = '\\' :: d :: rest := by
  have hall : (escapedChars.all fun c ↦ decide ((escapeChar c).head? = some '\\') &&
      decide (1 < (escapeChar c).length)) = true := by decide +kernel
  obtain ⟨hhead, hlength⟩ := Bool.and_eq_true_iff.1 (List.all_eq_true.1 hall c h)
  match hc : escapeChar c, of_decide_eq_true hhead, of_decide_eq_true hlength with
  | _ :: d :: rest, hhead, _ =>
    obtain rfl := Option.some.inj hhead
    exact ⟨d, rest, rfl⟩

/-- Characters are told apart by their escape sequences. -/
theorem selfDelimiting_escapeChar : SelfDelimiting escapeChar := by
  refine .of_forall_eq fun c d hprefix ↦ ?_
  by_cases hc : c ∈ escapedChars <;> by_cases hd : d ∈ escapedChars
  · have hall : (escapedChars.all fun c ↦ escapedChars.all fun d ↦
        decide (escapeChar c <+: escapeChar d → c = d)) = true := by decide +kernel
    exact of_decide_eq_true (List.all_eq_true.1 (List.all_eq_true.1 hall c hc) d hd) hprefix
  · obtain ⟨e, rest, heq⟩ := exists_escapeChar_eq hc
    rw [heq, (escapeChar_of_notMem hd).1] at hprefix
    exact absurd hprefix.length_le (by simp)
  · obtain ⟨e, rest, heq⟩ := exists_escapeChar_eq hd
    obtain ⟨hplain, hne, -⟩ := escapeChar_of_notMem hc
    rw [heq, hplain] at hprefix
    exact absurd (List.cons_prefix_cons.1 hprefix).1 hne
  · rw [(escapeChar_of_notMem hc).1, (escapeChar_of_notMem hd).1] at hprefix
    exact (List.cons_prefix_cons.1 hprefix).1

/-- No character of a string looks like its end. -/
theorem escapeChar_append_ne (c : Char) (s t : List Char) : escapeChar c ++ s ≠ ['\"'] ++ t := by
  intro heq
  by_cases hc : c ∈ escapedChars
  · obtain ⟨d, rest, hescape⟩ := exists_escapeChar_eq hc
    rw [hescape] at heq
    exact absurd (List.cons.inj heq).1 (by decide)
  · obtain ⟨hplain, -, hne⟩ := escapeChar_of_notMem hc
    rw [hplain] at heq
    exact hne (List.cons.inj heq).1

theorem selfDelimiting_dumpsString : SelfDelimiting dumpsString := by
  intro a b s t heq
  obtain ⟨hchars, hrest⟩ :=
    (selfDelimiting_escapeChar.closed escapeChar_append_ne) (List.cons.inj heq).2
  exact ⟨String.toList_inj.1 hchars, hrest⟩

/-- The items of an array or an object are told apart when each of them is, and none looks like the
closing bracket. -/
theorem selfDelimiting_dumpsItems {α : Type} {dumps : α → List Char} (h : SelfDelimiting dumps)
    {opening closing : Char} (hcomma : ',' ≠ closing)
    (hclosing : ∀ a s t, dumps a ++ s ≠ closing :: t) :
    SelfDelimiting (dumpsItems opening closing dumps) := by
  have htail : SelfDelimiting (encodeUntil [closing] fun a ↦ ", ".toList ++ dumps a) :=
    (h.behind ", ".toList).closed fun a s t heq ↦ hcomma (List.cons.inj heq).1
  rintro (- | ⟨a, as⟩) (- | ⟨b, bs⟩) s t heq
  · exact ⟨rfl, (List.cons.inj (List.cons.inj heq).2).2⟩
  · have hhead := (List.cons.inj heq).2.symm
    exact absurd ((List.append_assoc ..).symm.trans hhead) (hclosing b _ _)
  · have hhead := (List.cons.inj heq).2
    exact absurd ((List.append_assoc ..).symm.trans hhead) (hclosing a _ _)
  · obtain ⟨hpair, hrest⟩ := @SelfDelimiting.append _ _ _ _ _ h htail (a, as) (b, bs) s t
      (List.cons.inj heq).2
    obtain ⟨rfl, rfl⟩ := Prod.mk.inj hpair
    exact ⟨rfl, hrest⟩

theorem selfDelimiting_dumpsMember {α : Type} {dumps : α → List Char} (h : SelfDelimiting dumps) :
    SelfDelimiting (dumpsMember dumps) :=
  selfDelimiting_dumpsString.append (h.behind ": ".toList)

theorem dumpsString_append_ne {closing : Char} (h : '\"' ≠ closing) (a : String) (s t : List Char) :
    dumpsString a ++ s ≠ closing :: t := fun heq ↦
  h (List.cons.inj heq).1

theorem dumpsMember_append_ne {α : Type} (dumps : α → List Char) {closing : Char}
    (h : '\"' ≠ closing) (a : String × α) (s t : List Char) :
    dumpsMember dumps a ++ s ≠ closing :: t := fun heq ↦
  h (List.cons.inj heq).1

/-- An array or an object begins with its bracket. -/
theorem head?_dumpsItems {α : Type} (opening closing : Char) (dumps : α → List Char) (as : List α) :
    ∃ rest, dumpsItems opening closing dumps as = opening :: rest := by
  cases as <;> exact ⟨_, rfl⟩

theorem selfDelimiting_dumpsValue : SelfDelimiting dumpsValue := by
  have hlist : SelfDelimiting (dumpsItems '[' ']' dumpsString) :=
    selfDelimiting_dumpsItems selfDelimiting_dumpsString (by decide)
      (dumpsString_append_ne (by decide))
  have hobject : SelfDelimiting (dumpsItems '\x7b' '\x7d' (dumpsMember dumpsString)) :=
    selfDelimiting_dumpsItems (selfDelimiting_dumpsMember selfDelimiting_dumpsString) (by decide)
      (dumpsMember_append_ne _ (by decide))
  -- values of different kinds begin with different characters
  have hkind : ∀ {c d : Char} {x y s t : List Char}, c ≠ d → (∃ rest, x = c :: rest) →
      (∃ rest, y = d :: rest) → x ++ s ≠ y ++ t := by
    rintro c d x y s t hne ⟨x, rfl⟩ ⟨y, rfl⟩ heq
    exact hne (List.cons.inj heq).1
  have hstring : ∀ a, ∃ rest, dumpsString a = '\"' :: rest := fun a ↦ ⟨_, rfl⟩
  rintro (a | as | as) (b | bs | bs) s t heq
  · obtain ⟨rfl, hrest⟩ := selfDelimiting_dumpsString heq
    exact ⟨rfl, hrest⟩
  · exact absurd heq (hkind (by decide) (hstring a) (head?_dumpsItems ..))
  · exact absurd heq (hkind (by decide) (hstring a) (head?_dumpsItems ..))
  · exact absurd heq (hkind (by decide) (head?_dumpsItems ..) (hstring b))
  · obtain ⟨rfl, hrest⟩ := hlist heq
    exact ⟨rfl, hrest⟩
  · exact absurd heq (hkind (by decide) (head?_dumpsItems ..) (head?_dumpsItems ..))
  · exact absurd heq (hkind (by decide) (head?_dumpsItems ..) (hstring b))
  · exact absurd heq (hkind (by decide) (head?_dumpsItems ..) (head?_dumpsItems ..))
  · obtain ⟨rfl, hrest⟩ := hobject heq
    exact ⟨rfl, hrest⟩

/-- **A line determines its payload.** -/
theorem dumps_injective : Function.Injective dumps := by
  have hobject : SelfDelimiting (dumpsItems '\x7b' '\x7d' (dumpsMember dumpsValue)) :=
    selfDelimiting_dumpsItems (selfDelimiting_dumpsMember selfDelimiting_dumpsValue) (by decide)
      (dumpsMember_append_ne _ (by decide))
  exact fun p q h ↦ hobject.injective (String.ofList_inj.1 h)

/-! ### One argument -/

/-- A template with `key=%s` for a sensitive key, whose other parts take no argument. -/
structure KeyedTemplate where
  lead : List Char
  key : String
  rest : List Char
  key_mem : key ∈ redactedKeys
  lead_renders : (renderPositional none lead []).isSome
  rest_renders : (renderPositional none rest []).isSome

namespace KeyedTemplate

variable (template : KeyedTemplate)

/-- The text of a template. -/
def msg : String :=
  String.ofList (template.lead ++ (template.key.toList ++ ('=' :: '%' :: 's' :: template.rest)))

/-- The message with an argument in it. -/
def message (arg : String) : String :=
  String.ofList ((renderPositional none template.lead []).getD [] ++
    (template.key.toList ++
      ('=' :: (arg.toList ++ (renderPositional none template.rest []).getD []))))

end KeyedTemplate

/-- A character that is no `%` stands for itself. -/
theorem renderPositional_cons {c : Char} (h : c ≠ '%') (template : List Char) (args : List String) :
    renderPositional none (c :: template) args =
      (c :: ·) <$> renderPositional none template args := by
  rw [renderPositional, if_neg h]

/-- A `%` begins a conversion. -/
theorem renderPositional_percent (template : List Char) (args : List String) :
    renderPositional none ('%' :: template) args =
      renderPositional (some .start) template args := by
  rw [renderPositional, if_pos rfl]

/-- **Rendering a part of a template that takes no argument.** -/
theorem renderPositional_append {lead lead' : List Char} {part : Option ConversionPart}
    (h : renderPositional part lead [] = some lead') (template : List Char) (args : List String) :
    renderPositional part (lead ++ template) args =
      (lead' ++ ·) <$> renderPositional none template args := by
  induction lead generalizing part lead' with
  | nil =>
    rcases part with - | part
    · obtain rfl := Option.some.inj h
      exact (id_map _).symm
    · exact nomatch h
  | cons c lead ih =>
    -- a character of the text, or of a `%%`
    have hchar : ∀ d, (d :: ·) <$> renderPositional none lead [] = some lead' →
        (d :: ·) <$> renderPositional none (lead ++ template) args =
          (lead' ++ ·) <$> renderPositional none template args := by
      intro d hd
      obtain ⟨rest, hrest, rfl⟩ := Option.map_eq_some_iff.1 hd
      rw [ih hrest, ← comp_map]
      rfl
    rcases part with - | part
    · rw [List.cons_append]
      by_cases hc : c = '%'
      · subst hc
        rw [renderPositional_percent] at h ⊢
        exact ih h
      · rw [renderPositional_cons hc] at h ⊢
        exact hchar c h
    · rw [renderPositional] at h
      rw [List.cons_append, renderPositional]
      split at h
      · next hc =>
        rw [if_pos hc]
        exact hchar '%' h
      next hc =>
      rw [if_neg hc]
      split at h
      · exact nomatch h
      next hs =>
      rw [if_neg hs]
      split at h
      · exact nomatch h
      · exact ih h

example : renderPositional none "100%% of %s".toList ["all"] = some "100% of all".toList := by
  decide +kernel

/-- A key has no `%`. -/
theorem renderPositional_key {key : String} (h : key ∈ redactedKeys) :
    renderPositional none key.toList [] = some key.toList := by
  have hall : (redactedKeys.all fun key ↦
      decide (renderPositional none key.toList [] = some key.toList)) = true := by decide +kernel
  exact of_decide_eq_true (List.all_eq_true.1 hall key h)

namespace KeyedTemplate

variable (template : KeyedTemplate)

/-- A template renders with one argument. -/
theorem renderPositional_msg (arg : String) :
    renderPositional none template.msg.toList [arg] = some (template.message arg).toList := by
  obtain ⟨lead, hlead⟩ := Option.isSome_iff_exists.1 template.lead_renders
  obtain ⟨rest, hrest⟩ := Option.isSome_iff_exists.1 template.rest_renders
  have hconversion : renderPositional none ('=' :: '%' :: 's' :: template.rest) [arg] =
      some ('=' :: (arg.toList ++ rest)) := by
    rw [renderPositional_cons (by decide), renderPositional_percent]
    show _ <$> (_ <$> renderPositional none template.rest []) = _
    rw [hrest]
    rfl
  rw [msg, message, String.toList_ofList, String.toList_ofList, renderPositional_append hlead,
    renderPositional_append (renderPositional_key template.key_mem), hconversion, hlead, hrest]
  rfl

end KeyedTemplate

section Line

variable (record : LogRecord) (template : KeyedTemplate) (v w : String)

/-- The record of a template with one argument. -/
def keyedRecord : LogRecord :=
  { record with msg := template.msg, args := .positional [v] }

/-- The line of a template with one argument. -/
theorem jsonFormat_keyedRecord :
    jsonFormat (keyedRecord record template v) =
      some (dumps (payload (keyedRecord record template v) (template.message v))) := by
  have hmessage : (keyedRecord record template v).getMessage = some (template.message v) := by
    show String.ofList <$> renderPositional none template.msg.toList [v] = _
    rw [template.renderPositional_msg]
    exact congrArg some String.ofList_toList
  rw [jsonFormat, hmessage]
  rfl

/-- The payloads of two arguments differ in the message and in the arguments. -/
theorem payload_keyedRecord_eq_iff :
    payload (keyedRecord record template v) (template.message v) =
        payload (keyedRecord record template w) (template.message w) ↔
      sanitize v = sanitize w ∧ sanitize (template.message v) = sanitize (template.message w) := by
  constructor
  · intro h
    obtain ⟨hrest, hargs⟩ := List.append_inj' h rfl
    obtain ⟨hrest, -⟩ := List.append_inj' hrest rfl
    obtain ⟨hfields, -⟩ := List.append_inj' hrest rfl
    constructor
    · simpa [safeArgs, keyedRecord] using hargs
    · simpa [keyedRecord] using hfields
  · rintro ⟨hargs, hmessage⟩
    simp only [payload, safeArgs, keyedRecord, hmessage, List.map_cons, hargs]

/-- A value without whitespace or delimiter characters. -/
def IsLoggedValue (v : String) : Prop :=
  v ≠ "" ∧ ∀ c ∈ v.toList, isValueChar c = true

/-- The line is the same for every two values. -/
def LineIndependent : Prop :=
  ∀ v w, IsLoggedValue v → IsLoggedValue w →
    jsonFormat (keyedRecord record template v) = jsonFormat (keyedRecord record template w)

theorem jsonFormat_keyedRecord_eq_iff :
    jsonFormat (keyedRecord record template v) = jsonFormat (keyedRecord record template w) ↔
      sanitize v = sanitize w ∧ sanitize (template.message v) = sanitize (template.message w) := by
  rw [jsonFormat_keyedRecord, jsonFormat_keyedRecord, Option.some_inj, dumps_injective.eq_iff,
    payload_keyedRecord_eq_iff]

/-- **A line shows its argument.** Two arguments of a template with a sensitive key give the same
line exactly when they are sanitised alike, each on its own and in the message; and so no such
template keeps the line independent of its argument. -/
theorem line_eq_iff_and_not_independent :
    (∀ v w, jsonFormat (keyedRecord record template v) =
        jsonFormat (keyedRecord record template w) ↔
      sanitize v = sanitize w ∧ sanitize (template.message v) = sanitize (template.message w)) ∧
    ¬ LineIndependent record template := by
  refine ⟨jsonFormat_keyedRecord_eq_iff record template, fun h ↦ ?_⟩
  have hline := h "a" "b" ⟨by decide, List.all_eq_true.1 (by decide +kernel)⟩
    ⟨by decide, List.all_eq_true.1 (by decide +kernel)⟩
  have hargs := ((jsonFormat_keyedRecord_eq_iff record template "a" "b").1 hline).1
  exact absurd hargs (by decide +kernel)

end Line

/-- `token=%s`. -/
def tokenTemplate : KeyedTemplate where
  lead := []
  key := "token"
  rest := []
  key_mem := by decide
  lead_renders := rfl
  rest_renders := rfl

/-- A record of the service. -/
def loginRecord : LogRecord where
  timestamp := "2026-01-02T03:04:05+00:00"
  levelname := "INFO"
  name := "app"
  msg := ""
  args := .positional []

/-- The message is redacted, and the token is written beside it. -/
theorem token_reaches_line :
    tokenTemplate.msg = "token=%s" ∧ IsLoggedValue "hunter2" ∧ IsLoggedValue "hunter3" ∧
    jsonFormat (keyedRecord loginRecord tokenTemplate "hunter2") =
      some ("\x7b\"timestamp\": \"2026-01-02T03:04:05+00:00\", \"level\": \"INFO\", " ++
        "\"logger\": \"app\", \"message\": \"[REDACTED - contains sensitive key]\", " ++
        "\"args\": [\"hunter2\"]\x7d") ∧
    jsonFormat (keyedRecord loginRecord tokenTemplate "hunter2") ≠
      jsonFormat (keyedRecord loginRecord tokenTemplate "hunter3") ∧
    ¬ LineIndependent loginRecord tokenTemplate := by
  have htwo : IsLoggedValue "hunter2" := ⟨by decide, List.all_eq_true.1 (by decide +kernel)⟩
  have hthree : IsLoggedValue "hunter3" := ⟨by decide, List.all_eq_true.1 (by decide +kernel)⟩
  have hargs : sanitize "hunter2" ≠ sanitize "hunter3" := by decide +kernel
  have hne : jsonFormat (keyedRecord loginRecord tokenTemplate "hunter2") ≠
      jsonFormat (keyedRecord loginRecord tokenTemplate "hunter3") := fun h ↦
    hargs ((jsonFormat_keyedRecord_eq_iff loginRecord tokenTemplate "hunter2" "hunter3").1 h).1
  exact ⟨by decide +kernel, htwo, hthree, by decide +kernel, hne,
    fun h ↦ hne (h _ _ htwo hthree)⟩

end InvestmentAssistant
