import Mathlib.Tactic
import InvestmentAssistant.Api.Validators
import InvestmentAssistant.Foundation.IntText

/-!
# What the validators accept

Each validator is compared with the grammar its pattern is written for: symbols, periods and
identifiers as whole texts over ASCII. Two things separate them. A value followed by a line feed
passes as well, since `$` matches before it (`of_patternBody_iff`); and `\d` takes the digits of
every script. The first breaks what follows: `int(period[:-1])` then reads the unit as well.
-/

namespace InvestmentAssistant

open CharClass IntText

/-! ### Grammars -/

/-- Two to twenty ASCII letters, digits, slashes and hyphens. -/
def SymbolText (text : List Char) : Prop :=
  (∀ c ∈ text, isSymbolChar c = true) ∧ 2 ≤ text.length ∧ text.length ≤ 20

/-- One to four digits of a class and a unit. -/
def PeriodText (isDigit : Char → Bool) (text : List Char) : Prop :=
  (∀ c ∈ text.dropLast, isDigit c = true) ∧
    (1 ≤ text.dropLast.length ∧ text.dropLast.length ≤ 4) ∧
    text.getLast?.any isPeriodUnit = true

/-- A lower-case UUID4 in canonical form. -/
def AnalysisIdText (text : List Char) : Prop :=
  List.Forall₂ (fun place c ↦ matchesUuidPlace place c = true)
    "xxxxxxxx-xxxx-4xxx-yxxx-xxxxxxxxxxxx".toList text

/-- A value of a grammar and a line feed. -/
def BeforeLineFeed (grammar : List Char → Prop) (text : List Char) : Prop :=
  ∃ value, text = value ++ ['\n'] ∧ grammar value

/-! ### The end of the value -/

theorem patternBody_of_concat {s : String} {value : List Char} (h : s.toList = value ++ ['\n']) :
    patternBody s = value := by
  rw [patternBody, h, List.getLast?_concat, if_pos rfl, List.dropLast_concat]

theorem patternBody_of_ne {s : String} (h : s.toList.getLast? ≠ some '\n') :
    patternBody s = s.toList := by
  rw [patternBody, if_neg h]

/-- **What `$` accepts**: a value of the grammar, or one followed by a line feed. -/
theorem of_patternBody_iff {grammar : List Char → Prop}
    (hend : ∀ value, grammar value → value.getLast? ≠ some '\n') (s : String) :
    grammar (patternBody s) ↔ grammar s.toList ∨ BeforeLineFeed grammar s.toList := by
  by_cases h : s.toList.getLast? = some '\n'
  · obtain ⟨value, hvalue⟩ := List.getLast?_eq_some_iff.1 h
    rw [patternBody_of_concat hvalue, or_iff_right fun hs ↦ hend _ hs h]
    constructor
    · exact fun hv ↦ ⟨value, hvalue, hv⟩
    · rintro ⟨v, hv, hgrammar⟩
      rw [hvalue] at hv
      rwa [List.append_cancel_right hv]
  · rw [patternBody_of_ne h, or_iff_left]
    rintro ⟨value, hvalue, -⟩
    rw [hvalue] at h
    exact h List.getLast?_concat

/-- The characters of an accepted symbol. -/
theorem SymbolValid.of_mem {symbol : String} (h : SymbolValid symbol) {c : Char}
    (hc : c ∈ symbol.toList) : isSymbolChar c = true ∨ c = '\n' := by
  by_cases hfeed : symbol.toList.getLast? = some '\n'
  · obtain ⟨value, hvalue⟩ := List.getLast?_eq_some_iff.1 hfeed
    rw [hvalue, List.mem_append, List.mem_singleton] at hc
    refine hc.imp_left fun hmem ↦ h.1 c ?_
    rwa [patternBody_of_concat hvalue]
  · refine .inl (h.1 c ?_)
    rwa [patternBody_of_ne hfeed]

/-- A pattern is exact on a text unless the text has a line feed after a value. -/
theorem exact_iff {grammar : List Char → Prop}
    (hend : ∀ value, grammar value → value.getLast? ≠ some '\n') (s : String) :
    (grammar (patternBody s) ↔ grammar s.toList) ↔ ¬ BeforeLineFeed grammar s.toList := by
  rw [of_patternBody_iff hend]
  constructor
  · rintro h ⟨value, hvalue, hgrammar⟩
    have hs := h.1 (.inr ⟨value, hvalue, hgrammar⟩)
    exact hend _ hs (by rw [hvalue, List.getLast?_concat])
  · exact fun h ↦ or_iff_left h

theorem SymbolText.getLast?_ne {text : List Char} (h : SymbolText text) :
    text.getLast? ≠ some '\n' :=
  fun hlast ↦ absurd (h.1 _ (List.mem_of_getLast? hlast)) (by decide)

theorem PeriodText.getLast?_ne {isDigit : Char → Bool} {text : List Char}
    (h : PeriodText isDigit text) : text.getLast? ≠ some '\n' := by
  intro hlast
  have hunit := h.2.2
  rw [hlast] at hunit
  exact absurd hunit (by decide)

/-- Every character of an identifier is a digit, a letter from `a` to `f` or a hyphen. -/
theorem AnalysisIdText.getLast?_ne {text : List Char} (h : AnalysisIdText text) :
    text.getLast? ≠ some '\n' := by
  intro hlast
  obtain ⟨place, hplace, hmatch⟩ := exists_mem_of_forall₂ h (List.mem_of_getLast? hlast)
  have hnone : ∀ place ∈ "xxxxxxxx-xxxx-4xxx-yxxx-xxxxxxxxxxxx".toList,
      matchesUuidPlace place '\n' = false :=
    forall_mem_eq_false (by decide)
  rw [hnone place hplace] at hmatch
  exact absurd hmatch Bool.false_ne_true

theorem validateSymbol_eq_ok_iff {s : String} : validateSymbol s = .ok () ↔ SymbolValid s := by
  rw [validateSymbol]
  split
  · next h => exact iff_of_true rfl h
  · next h => exact iff_of_false (fun heq ↦ by cases heq) h

theorem validatePeriod_eq_ok_iff {s : String} : validatePeriod s = .ok () ↔ PeriodValid s := by
  rw [validatePeriod]
  split
  · next h => exact iff_of_true rfl h
  · next h => exact iff_of_false (fun heq ↦ by cases heq) h

theorem validateAnalysisId_eq_ok_iff {s : String} :
    validateAnalysisId s = .ok () ↔ AnalysisIdValid s := by
  rw [validateAnalysisId]
  split
  · next h => exact iff_of_true rfl h
  · next h => exact iff_of_false (fun heq ↦ by cases heq) h

/-! ### Digits -/

/-- The digits of ASCII are the ones below 128 of the digits of every script. -/
theorem isDigit_iff (c : Char) :
    c.isDigit = true ↔ isDecimalDigit c = true ∧ c.toNat < 128 := by
  have hsmall : ∀ n < 128, (Char.ofNat n).isDigit = isDecimalDigit (Char.ofNat n) := by
    decide
  constructor
  · intro h
    have hlt : c.toNat < 128 := by
      have hle : c.toNat ≤ 57 := (Char.isDigit_iff_toNat.1 h).2
      omega
    have heq := hsmall c.toNat hlt
    rw [Char.ofNat_toNat] at heq
    exact ⟨heq ▸ h, hlt⟩
  · rintro ⟨h, hlt⟩
    have heq := hsmall c.toNat hlt
    rw [Char.ofNat_toNat] at heq
    exact heq.trans h

theorem toNat_lt_of_isPeriodUnit {c : Char} (h : isPeriodUnit c = true) : c.toNat < 128 := by
  simp only [isPeriodUnit, Bool.or_eq_true, beq_iff_eq] at h
  rcases h with ((((rfl | rfl) | rfl) | rfl) | rfl) | rfl <;> decide

/-- A period is its digits and its unit. -/
theorem PeriodText.exists_eq {isDigit : Char → Bool} {text : List Char}
    (h : PeriodText isDigit text) :
    ∃ unit, text = text.dropLast ++ [unit] ∧ isPeriodUnit unit = true := by
  obtain ⟨-, -, hunit⟩ := h
  rcases hlast : text.getLast? with - | unit
  · rw [hlast] at hunit
    exact absurd hunit Bool.false_ne_true
  · rw [hlast] at hunit
    exact ⟨unit, (List.dropLast_append_getLast? _ hlast).symm, hunit⟩

/-- A period in ASCII is a period without a character beyond it. -/
theorem periodText_isDigit_iff {text : List Char} :
    PeriodText Char.isDigit text ↔
      PeriodText isDecimalDigit text ∧ ∀ c ∈ text, c.toNat < 128 := by
  constructor
  · intro h
    obtain ⟨unit, htext, hunit⟩ := h.exists_eq
    refine ⟨⟨fun c hc ↦ ((isDigit_iff c).1 (h.1 c hc)).1, h.2⟩, fun c hc ↦ ?_⟩
    rw [htext] at hc
    rcases List.mem_append.1 hc with hc | hc
    · exact ((isDigit_iff c).1 (h.1 c hc)).2
    · rw [List.mem_singleton.1 hc]
      exact toNat_lt_of_isPeriodUnit hunit
  · rintro ⟨h, hascii⟩
    exact ⟨fun c hc ↦ (isDigit_iff c).2 ⟨h.1 c hc, hascii c (List.mem_of_mem_dropLast hc)⟩, h.2⟩

/-! ### The number of a period -/

/-- `int(period[:-1])` of a period. -/
theorem PeriodText.int?_dropLast {text : List Char} (h : PeriodText isDecimalDigit text) :
    int? text.dropLast = some (digitsToNat text.dropLast : ℤ) := by
  obtain ⟨hdigits, ⟨hpos, hle⟩, -⟩ := h
  have hmax : text.dropLast.length ≤ maxStrDigits := hle.trans (by decide)
  exact int?_of_digits (List.length_pos_iff.1 hpos) hdigits hmax

/-- Behind a line feed the unit is read as a part of the number. -/
theorem int?_eq_none_of_periodText {text : List Char} (h : PeriodText isDecimalDigit text) :
    int? text = none := by
  obtain ⟨unit, htext, hunit⟩ := h.exists_eq
  refine Option.eq_none_iff_forall_ne_some.2 fun n hn ↦ ?_
  have hmem : unit ∈ text := by
    rw [htext]
    exact List.mem_append_right _ (List.mem_singleton_self unit)
  have hnone : ∀ c, isPeriodUnit c = true →
      ¬ (isBlank c = true ∨ c = '-' ∨ c = '+' ∨ c = '_' ∨ isDecimalDigit c = true) := by
    intro c hc
    simp only [isPeriodUnit, Bool.or_eq_true, beq_iff_eq] at hc
    rcases hc with ((((rfl | rfl) | rfl) | rfl) | rfl) | rfl <;> decide
  exact hnone unit hunit (of_mem_of_int?_eq_some hn hmem)

/-- **The number of an accepted period is read unless a line feed follows the unit.** -/
theorem int?_dropLast_of_periodValid {s : String} (h : PeriodValid s) :
    (∃ n, int? s.toList.dropLast = some n) ↔
      ¬ BeforeLineFeed (PeriodText isDecimalDigit) s.toList := by
  have hcases : PeriodText isDecimalDigit s.toList ∨
      BeforeLineFeed (PeriodText isDecimalDigit) s.toList :=
    (of_patternBody_iff (fun _ ↦ PeriodText.getLast?_ne) s).1 h
  constructor
  · rintro ⟨n, hn⟩ ⟨value, hvalue, hperiod⟩
    rw [hvalue, List.dropLast_concat, int?_eq_none_of_periodText hperiod] at hn
    cases hn
  · exact fun hnot ↦ ⟨_, (hcases.resolve_right hnot).int?_dropLast⟩

/-! ### The validators and their grammars -/

/-- Every validator accepts a text exactly when the text is of its grammar, and the number of an
accepted period can be read. -/
structure AcceptsGrammars (s : String) : Prop where
  symbol : validateSymbol s = .ok () ↔ SymbolText s.toList
  period : validatePeriod s = .ok () ↔ PeriodText Char.isDigit s.toList
  analysisId : validateAnalysisId s = .ok () ↔ AnalysisIdText s.toList
  periodNumber : validatePeriod s = .ok () → ∃ n, int? s.toList.dropLast = some n

/-- A value any of the validators accepts, and a line feed. -/
def ValueBeforeLineFeed (s : String) : Prop :=
  BeforeLineFeed
    (fun value ↦ SymbolText value ∨ PeriodText isDecimalDigit value ∨ AnalysisIdText value) s.toList

/-- A period with a digit of another script. -/
def ForeignPeriod (s : String) : Prop :=
  PeriodText isDecimalDigit s.toList ∧ ∃ c ∈ s.toList, 128 ≤ c.toNat

theorem valueBeforeLineFeed_iff (s : String) :
    ValueBeforeLineFeed s ↔ BeforeLineFeed SymbolText s.toList ∨
      BeforeLineFeed (PeriodText isDecimalDigit) s.toList ∨
      BeforeLineFeed AnalysisIdText s.toList := by
  simp only [ValueBeforeLineFeed, BeforeLineFeed, and_or_left, exists_or]

/-- The period validator is exact unless a line feed follows a period or a digit is of another
script. -/
theorem validatePeriod_iff (s : String) :
    (validatePeriod s = .ok () ↔ PeriodText Char.isDigit s.toList) ↔
      ¬ BeforeLineFeed (PeriodText isDecimalDigit) s.toList ∧ ¬ ForeignPeriod s := by
  have hcases : PeriodValid s ↔ PeriodText isDecimalDigit s.toList ∨
      BeforeLineFeed (PeriodText isDecimalDigit) s.toList :=
    of_patternBody_iff (fun _ ↦ PeriodText.getLast?_ne) s
  have hdisjoint : PeriodText isDecimalDigit s.toList →
      ¬ BeforeLineFeed (PeriodText isDecimalDigit) s.toList := by
    rintro h ⟨value, hvalue, -⟩
    exact h.getLast?_ne (by rw [hvalue, List.getLast?_concat])
  rw [validatePeriod_eq_ok_iff, hcases, periodText_isDigit_iff, ForeignPeriod]
  constructor
  · intro h
    refine ⟨fun hline ↦ hdisjoint (h.1 (.inr hline)).1 hline, ?_⟩
    rintro ⟨hperiod, c, hc, hforeign⟩
    exact absurd ((h.1 (.inl hperiod)).2 c hc) hforeign.not_gt
  · rintro ⟨hline, hforeign⟩
    rw [or_iff_left hline]
    refine ⟨fun hperiod ↦ ⟨hperiod, fun c hc ↦ ?_⟩, fun h ↦ h.1⟩
    by_contra hlarge
    exact hforeign ⟨hperiod, c, hc, not_lt.1 hlarge⟩

/-- **The validators accept their grammars exactly on the texts that are neither a value before a
line feed nor a period with a digit of another script.** -/
theorem acceptsGrammars_iff (s : String) :
    AcceptsGrammars s ↔ ¬ ValueBeforeLineFeed s ∧ ¬ ForeignPeriod s := by
  have hsymbol : (validateSymbol s = .ok () ↔ SymbolText s.toList) ↔
      ¬ BeforeLineFeed SymbolText s.toList := by
    rw [validateSymbol_eq_ok_iff]
    exact exact_iff (fun _ ↦ SymbolText.getLast?_ne) s
  have hanalysisId : (validateAnalysisId s = .ok () ↔ AnalysisIdText s.toList) ↔
      ¬ BeforeLineFeed AnalysisIdText s.toList := by
    rw [validateAnalysisId_eq_ok_iff]
    exact exact_iff (fun _ ↦ AnalysisIdText.getLast?_ne) s
  rw [valueBeforeLineFeed_iff]
  constructor
  · intro h
    obtain ⟨hperiod, hforeign⟩ := (validatePeriod_iff s).1 h.period
    refine ⟨?_, hforeign⟩
    rw [not_or, not_or]
    exact ⟨hsymbol.1 h.symbol, hperiod, hanalysisId.1 h.analysisId⟩
  · rintro ⟨hline, hforeign⟩
    rw [not_or, not_or] at hline
    obtain ⟨hs, hp, ha⟩ := hline
    refine ⟨hsymbol.2 hs, (validatePeriod_iff s).2 ⟨hp, hforeign⟩, hanalysisId.2 ha, fun h ↦ ?_⟩
    exact (int?_dropLast_of_periodValid (validatePeriod_eq_ok_iff.1 h)).2 hp

/-- A period before a line feed is accepted and has no number; an Arabic digit passes for one. -/
theorem not_acceptsGrammars :
    (validatePeriod "30d\n" = .ok () ∧ ¬ AcceptsGrammars "30d\n") ∧
      validatePeriod "3٠d" = .ok () ∧ ¬ AcceptsGrammars "3٠d" := by
  refine ⟨⟨by decide, fun h ↦ ?_⟩, by decide, fun h ↦ ?_⟩
  · obtain ⟨n, hn⟩ := h.periodNumber (by decide)
    have hnone : int? "30d\n".toList.dropLast = none := by decide
    rw [hnone] at hn
    cases hn
  · have hdigits := (h.period.1 (by decide)).1
    exact absurd (hdigits '٠' (by decide)) (by decide)

end InvestmentAssistant
