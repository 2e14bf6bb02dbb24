import Mathlib.Tactic.IntervalCases
import InvestmentAssistant.Foundation.IpAddress

/-!
# The spellings of an address

Two texts spell the same address when they denote the same number and have the same scope. An IPv4
address has one spelling: four decimal numbers without leading zeros (`ipv4?_eq_some_iff`). Every
IPv6 address has several (`exists_otherSpelling`): its last two groups may be written as an IPv4
address, or not.
-/

namespace IpAddress

/-- The scope of an address, from its percent sign on. -/
def scopeOf (text : String) : List Char :=
  text.toList.dropWhile (· ≠ '%')

/-- Two texts spell the same address. -/
def SameAddress (text text' : String) : Prop :=
  ∃ address, ofText? text = some address ∧ ofText? text' = some address ∧
    scopeOf text = scopeOf text'

/-- A pass over a list that finds values finds one for each element, in order. -/
theorem mapM_eq_some_iff {α β : Type} {f : α → Option β} {xs : List α} {ys : List β} :
    xs.mapM f = some ys ↔ xs.map f = ys.map some := by
  induction xs generalizing ys with
  | nil =>
    rw [List.mapM_nil, List.map_nil, eq_comm, @eq_comm _ [], List.map_eq_nil_iff]
    exact Option.some_inj
  | cons x xs ih =>
    rw [List.mapM_cons, List.map_cons, Option.bind_eq_bind, Option.bind_eq_some_iff]
    constructor
    · rintro ⟨y, hy, h⟩
      obtain ⟨zs, hzs, h⟩ := Option.bind_eq_some_iff.1 h
      rw [← Option.some.inj h, List.map_cons, hy, ih.1 hzs]
    · intro h
      rcases ys with - | ⟨y, ys⟩
      · cases h
      · obtain ⟨hy, hys⟩ := List.cons.inj h
        exact ⟨y, hy, Option.bind_eq_some_iff.2 ⟨ys, ih.2 hys, rfl⟩⟩

/-! ### Numbers in a base -/

section Numbers

variable {base : ℕ} {digit : Char → ℕ}

/-- What the digits of a number denote is the number. -/
theorem valueOf_toDigits (hbase : 1 < base) (hdigit : ∀ d < base, digit d.digitChar = d) (n : ℕ) :
    valueOf base digit (Nat.toDigits base n) = n := by
  induction n using Nat.strong_induction_on with
  | _ n ih =>
    rcases lt_or_ge n base with hlt | hge
    · rw [Nat.toDigits_of_lt_base hlt, valueOf, List.foldl_cons, List.foldl_nil, hdigit n hlt]
      omega
    · have hdiv : n / base < n := Nat.div_lt_self (by omega) hbase
      have hmod : n % base < base := Nat.mod_lt n (by omega)
      have hrest : (Nat.toDigits base (n / base)).foldl
          (fun value c ↦ base * value + digit c) 0 = n / base := ih _ hdiv
      rw [Nat.toDigits_of_base_le hbase hge, valueOf, List.foldl_append, hrest, List.foldl_cons,
        List.foldl_nil, hdigit _ hmod, Nat.div_add_mod]

/-- Digits after a number that is not zero are the digits of what they denote together. -/
theorem toDigits_foldl (hbase : 1 < base) {digits : List Char}
    (hdigits : ∀ c ∈ digits, digit c < base ∧ (digit c).digitChar = c) {n : ℕ} (hn : 0 < n) :
    Nat.toDigits base (digits.foldl (fun value c ↦ base * value + digit c) n) =
      Nat.toDigits base n ++ digits := by
  induction digits generalizing n with
  | nil => rw [List.foldl_nil, List.append_nil]
  | cons c digits ih =>
    obtain ⟨hlt, hchar⟩ := hdigits c (List.mem_cons_self ..)
    have hpos : 0 < base * n + digit c := by positivity
    rw [List.foldl_cons, ih (fun c' hc' ↦ hdigits c' (List.mem_cons_of_mem _ hc')) hpos,
      ← Nat.toDigits_append_toDigits hbase hn hlt, Nat.toDigits_of_lt_base hlt, hchar,
      List.append_assoc]
    rfl

/-- Digits that do not begin with a zero are the digits of what they denote. -/
theorem toDigits_valueOf (hbase : 1 < base) {c : Char} {digits : List Char} (hc : digit c ≠ 0)
    (hdigits : ∀ c' ∈ c :: digits, digit c' < base ∧ (digit c').digitChar = c') :
    Nat.toDigits base (valueOf base digit (c :: digits)) = c :: digits := by
  obtain ⟨hlt, hchar⟩ := hdigits c (List.mem_cons_self ..)
  rw [valueOf, List.foldl_cons, Nat.mul_zero, Nat.zero_add,
    toDigits_foldl hbase (fun c' hc' ↦ hdigits c' (List.mem_cons_of_mem _ hc'))
      (Nat.pos_of_ne_zero hc), Nat.toDigits_of_lt_base hlt, hchar]
  rfl

/-- What digits denote is bounded by their number. -/
theorem foldl_lt {digits : List Char} (hdigits : ∀ c ∈ digits, digit c < base) (n : ℕ) :
    digits.foldl (fun value c ↦ base * value + digit c) n < (n + 1) * base ^ digits.length := by
  induction digits generalizing n with
  | nil => simp
  | cons c digits ih =>
    have hc : digit c < base := hdigits c (List.mem_cons_self ..)
    calc (c :: digits).foldl (fun value c ↦ base * value + digit c) n
        < (base * n + digit c + 1) * base ^ digits.length :=
          ih (fun c' hc' ↦ hdigits c' (List.mem_cons_of_mem _ hc')) _
      _ ≤ ((n + 1) * base) * base ^ digits.length := by
          refine Nat.mul_le_mul_right _ ?_
          rw [Nat.add_mul, Nat.one_mul, Nat.mul_comm n]
          omega
      _ = (n + 1) * base ^ (c :: digits).length := by
          rw [List.length_cons, Nat.pow_succ, Nat.mul_assoc, Nat.mul_comm base]

end Numbers

/-- A decimal digit is the digit of its value. -/
theorem decimalDigit_spec {c : Char} (h : c.isDigit = true) :
    decimalDigit c < 10 ∧ (decimalDigit c).digitChar = c := by
  obtain ⟨hge, hle⟩ : 48 ≤ c.toNat ∧ c.toNat ≤ 57 := by
    simpa [Char.isDigit, UInt32.le_iff_toNat_le] using h
  have hvalue : decimalDigit c = c.toNat - 48 := rfl
  refine ⟨by omega, Char.toNat_inj.1 ?_⟩
  rw [Nat.toNat_digitChar_of_lt_ten (by omega)]
  omega

theorem hexDigit_digitChar (d : ℕ) (h : d < 16) : hexDigit d.digitChar = d := by
  interval_cases d <;> rfl

theorem isHexDigit_digitChar (d : ℕ) (h : d < 16) : isHexDigit d.digitChar = true := by
  interval_cases d <;> rfl

/-! ### IPv4 -/

theorem octet?_toDigits : ∀ n < 256, octet? (Nat.toDigits 10 n) = some n := by
  decide +kernel

/-- An octet is spelled as the decimal number it denotes. -/
theorem octet?_eq_some_iff {text : List Char} {n : ℕ} :
    octet? text = some n ↔ n < 256 ∧ text = Nat.toDigits 10 n := by
  constructor
  · intro h
    rw [octet?, Option.ite_none_right_eq_some] at h
    obtain ⟨⟨hne, hdigits, -, hzero, hle⟩, hn⟩ := h
    obtain rfl := Option.some.inj hn
    refine ⟨by omega, ?_⟩
    rcases hzero with rfl | hzero
    · rfl
    obtain ⟨c, digits, rfl⟩ := List.exists_cons_of_ne_nil hne
    have hspec : ∀ c' ∈ c :: digits, decimalDigit c' < 10 ∧ (decimalDigit c').digitChar = c' :=
      fun c' hc' ↦ decimalDigit_spec (List.all_eq_true.1 hdigits c' hc')
    refine (toDigits_valueOf (by omega) (fun h0 ↦ hzero ?_) hspec).symm
    -- the digit of zero is '0'
    rw [List.head?_cons, ← (hspec c (List.mem_cons_self ..)).2, h0]
    rfl
  · rintro ⟨hn, rfl⟩
    exact octet?_toDigits n hn

/-- Four octets. -/
def quad (a b c d : ℕ) : List Char :=
  ['.'].intercalate ([a, b, c, d].map (Nat.toDigits 10))

theorem of_mem_toDigits_ten {n : ℕ} {c : Char} (h : c ∈ Nat.toDigits 10 n) : c.isDigit = true :=
  Nat.isDigit_of_mem_toDigits (by omega) (by omega) h

theorem of_mem_quad {a b c d : ℕ} {char : Char} (h : char ∈ quad a b c d) :
    char.isDigit = true ∨ char = '.' := by
  simp only [quad, List.map_cons, List.map_nil, List.intercalate_cons_cons,
    List.intercalate_singleton, List.mem_append, List.mem_singleton] at h
  rcases h with (h | h) | (h | h) | (h | h) | h
  · exact .inl (of_mem_toDigits_ten h)
  · exact .inr h
  · exact .inl (of_mem_toDigits_ten h)
  · exact .inr h
  · exact .inl (of_mem_toDigits_ten h)
  · exact .inr h
  · exact .inl (of_mem_toDigits_ten h)

/-- **An IPv4 address has one spelling.** -/
theorem ipv4?_eq_some_iff {text : List Char} {n : ℕ} :
    ipv4? text = some n ↔ ∃ a b c d, (a < 256 ∧ b < 256 ∧ c < 256 ∧ d < 256) ∧
      n = ((a * 256 + b) * 256 + c) * 256 + d ∧ text = quad a b c d := by
  constructor
  · intro h
    rw [ipv4?] at h
    split at h
    · next p q r s hsplit =>
      obtain ⟨octets, hoctets, hn⟩ := Option.bind_eq_some_iff.1 h
      rw [mapM_eq_some_iff] at hoctets
      obtain ⟨a, b, c, d, rfl⟩ : ∃ a b c d, octets = [a, b, c, d] :=
        List.length_eq_four.1 (by simpa using (congrArg List.length hoctets).symm)
      simp only [List.map_cons, List.map_nil, List.cons.injEq, octet?_eq_some_iff] at hoctets
      obtain ⟨⟨ha, rfl⟩, ⟨hb, rfl⟩, ⟨hc, rfl⟩, ⟨hd, rfl⟩, -⟩ := hoctets
      refine ⟨a, b, c, d, ⟨ha, hb, hc, hd⟩, ?_, ?_⟩
      · obtain rfl := Option.some.inj hn
        simp only [List.foldl_cons, List.foldl_nil]
        omega
      · rw [quad, List.map_cons, List.map_cons, List.map_cons, List.map_cons, List.map_nil,
          ← hsplit, List.intercalate_splitOn]
    · cases h
  · rintro ⟨a, b, c, d, ⟨ha, hb, hc, hd⟩, rfl, rfl⟩
    have hsplit : (quad a b c d).splitOn '.' = [a, b, c, d].map (Nat.toDigits 10) := by
      refine List.splitOn_intercalate '.' (fun digits hdigits hdot ↦ ?_) (by simp)
      obtain ⟨n, -, rfl⟩ := List.mem_map.1 hdigits
      exact absurd (of_mem_toDigits_ten hdot) (by decide)
    have hoctets : ([a, b, c, d].map (Nat.toDigits 10)).mapM octet? = some [a, b, c, d] := by
      rw [mapM_eq_some_iff, List.map_map]
      simp [octet?_toDigits, ha, hb, hc, hd]
    rw [ipv4?, hsplit]
    simp only [List.map_cons, List.map_nil] at hoctets ⊢
    rw [hoctets]
    simp only [Option.bind_eq_bind, Option.bind_some, List.foldl_cons, List.foldl_nil,
      Option.pure_def, Option.some_inj]
    omega

/-- What spells the address of an IPv4 text is that text. -/
theorem SameAddress.eq_of_v4 {text text' : String} (h : SameAddress text text') {value : ℕ}
    (hvalue : ofText? text = some ⟨.v4, value⟩) : text' = text := by
  have htoList : ∀ {t : String}, ofText? t = some ⟨.v4, value⟩ → ipv4? t.toList = some value := by
    intro t ht
    rw [ofText?] at ht
    split at ht
    · next hipv4 =>
      rw [hipv4]
      simpa using ht
    · simp at ht
  obtain ⟨address, haddress, haddress', -⟩ := h
  obtain rfl := Option.some.inj (haddress.symm.trans hvalue)
  obtain ⟨a, b, c, d, hlt, hn, htext⟩ := ipv4?_eq_some_iff.1 (htoList hvalue)
  obtain ⟨a', b', c', d', hlt', hn', htext'⟩ := ipv4?_eq_some_iff.1 (htoList haddress')
  obtain ⟨rfl, rfl, rfl, rfl⟩ : a' = a ∧ b' = b ∧ c' = c ∧ d' = d := by omega
  exact String.toList_injective (htext'.trans htext.symm)

/-! ### IPv6 -/

theorem hextet?_ne_nil {text : List Char} {n : ℕ} (h : hextet? text = some n) : text ≠ [] := by
  rw [hextet?, Option.ite_none_right_eq_some] at h
  exact h.1.1

theorem isHexDigit_of_mem {text : List Char} {n : ℕ} (h : hextet? text = some n) {c : Char}
    (hc : c ∈ text) : isHexDigit c = true := by
  rw [hextet?, Option.ite_none_right_eq_some] at h
  exact List.all_eq_true.1 h.1.2.1 c hc

theorem isHexDigit_of_mem_toDigits {n : ℕ} {c : Char} (h : c ∈ Nat.toDigits 16 n) :
    isHexDigit c = true := by
  induction n using Nat.strong_induction_on with
  | _ n ih =>
    rcases lt_or_ge n 16 with hlt | hge
    · rw [Nat.toDigits_of_lt_base hlt, List.mem_singleton] at h
      rw [h]
      exact isHexDigit_digitChar n hlt
    · rw [Nat.toDigits_of_base_le (by omega) hge, List.mem_append, List.mem_singleton] at h
      rcases h with h | rfl
      · exact ih (n / 16) (by omega) h
      · exact isHexDigit_digitChar _ (Nat.mod_lt n (by omega))

theorem hextet?_toDigits {n : ℕ} (h : n < 65536) : hextet? (Nat.toDigits 16 n) = some n := by
  have hlength : (Nat.toDigits 16 n).length ≤ 4 :=
    (Nat.length_toDigits_le_iff (by omega) (by omega)).2 (by omega)
  have hdigits : (Nat.toDigits 16 n).all isHexDigit = true :=
    List.all_eq_true.2 fun c hc ↦ isHexDigit_of_mem_toDigits hc
  rw [hextet?, if_pos ⟨Nat.toDigits_ne_nil, hdigits, hlength⟩,
    valueOf_toDigits (by omega) hexDigit_digitChar]

theorem hexDigit_lt {c : Char} (h : isHexDigit c = true) : hexDigit c < 16 := by
  have hascii : ∀ n < 103, isHexDigit (Char.ofNat n) = true → hexDigit (Char.ofNat n) < 16 := by
    decide
  have hle : c.toNat < 103 := by
    simp only [isHexDigit, Char.isDigit, Char.le_def, UInt32.le_iff_toNat_le, Bool.or_eq_true,
      Bool.and_eq_true, decide_eq_true_eq, ge_iff_le] at h
    have h9 : '9'.val.toNat = 57 := rfl
    have hF : 'F'.val.toNat = 70 := rfl
    have hf : 'f'.val.toNat = 102 := rfl
    change c.val.toNat < 103
    omega
  rw [← Char.ofNat_toNat c] at h ⊢
  exact hascii c.toNat hle h

/-- A group denotes sixteen bits. -/
theorem hextet?_lt {text : List Char} {n : ℕ} (h : hextet? text = some n) : n < 65536 := by
  have hhex : ∀ c ∈ text, hexDigit c < 16 := fun c hc ↦ hexDigit_lt (isHexDigit_of_mem h hc)
  rw [hextet?, Option.ite_none_right_eq_some] at h
  obtain ⟨⟨-, -, hlength⟩, hn⟩ := h
  obtain rfl := Option.some.inj hn
  calc valueOf 16 hexDigit text < (0 + 1) * 16 ^ text.length := foldl_lt hhex 0
    _ = 16 ^ text.length := by rw [Nat.zero_add, Nat.one_mul]
    _ ≤ 16 ^ 4 := Nat.pow_le_pow_right (by omega) hlength

/-- An address has eight groups. -/
theorem length_groups {parts filled : List (List Char)} (h : groups parts = some filled) :
    filled.length = 8 := by
  rw [groups] at h
  split at h
  · split at h
    · next hparts => exact Option.some.inj h ▸ hparts.1
    · cases h
  · obtain ⟨hi, -, h⟩ := Option.bind_eq_some_iff.1 h
    obtain ⟨lo, -, h⟩ := Option.bind_eq_some_iff.1 h
    split at h
    · cases h
    · next hlength =>
      obtain rfl := Option.some.inj h
      simp only [List.length_append, List.length_replicate]
      omega
  · cases h

/-- Eight groups with digits in all of them are what they are. -/
theorem groups_of_mapM {parts : List (List Char)} {hextets : List ℕ} (hlength : parts.length = 8)
    (h : parts.mapM hextet? = some hextets) : groups parts = some parts := by
  have hne : ∀ part ∈ parts, part ≠ [] := by
    intro part hpart
    rw [mapM_eq_some_iff] at h
    obtain ⟨n, -, hn⟩ := List.mem_map.1 (h ▸ List.mem_map_of_mem hpart)
    exact hextet?_ne_nil hn.symm
  have hskips : skips parts = [] := by
    refine List.filter_eq_nil_iff.2 fun i _ hi ↦ ?_
    exact hne [] (List.mem_of_getElem? (of_decide_eq_true hi).2.2) rfl
  rw [groups, hskips]
  refine if_pos ⟨hlength, fun hhead ↦ ?_, fun hlast ↦ ?_⟩
  · exact hne [] (List.mem_of_head? hhead) rfl
  · exact hne [] (List.mem_of_getLast? hlast) rfl

/-- Parts that stand for eight groups spell the address of these groups. -/
theorem ipv6Value?_intercalate {parts filled : List (List Char)} {hextets : List ℕ}
    (hcolon : ∀ part ∈ parts, ':' ∉ part) (hlength : 3 ≤ parts.length)
    (hexpand : expandSuffix parts = some filled) (hfilled : filled.length = 8)
    (h : filled.mapM hextet? = some hextets) :
    ipv6Value? ([':'].intercalate parts) =
      some (hextets.foldl (fun value hextet ↦ 65536 * value + hextet) 0) := by
  have hne : parts ≠ [] := by
    rintro rfl
    simp at hlength
  rw [ipv6Value?, List.splitOn_intercalate ':' hcolon hne, if_neg (by omega), hexpand,
    Option.bind_eq_bind, Option.bind_some, if_neg (by omega), groups_of_mapM hfilled h,
    Option.bind_some, h]
  rfl

/-- Groups written out, and groups whose last two are written as IPv4. -/
theorem expandSuffix_of_not_mem (front : List (List Char)) {last : List Char} (h : '.' ∉ last) :
    expandSuffix (front ++ [last]) = some (front ++ [last]) := by
  rw [expandSuffix, List.getLast?_concat]
  exact if_neg h

theorem expandSuffix_quad (front : List (List Char)) {a b : ℕ} (ha : a < 65536) (hb : b < 65536) :
    expandSuffix (front ++ [quad (a / 256) (a % 256) (b / 256) (b % 256)]) =
      some (front ++ [Nat.toDigits 16 a, Nat.toDigits 16 b]) := by
  have hdot : '.' ∈ quad (a / 256) (a % 256) (b / 256) (b % 256) := by
    simp [quad, List.intercalate_cons_cons]
  have hvalue : ipv4? (quad (a / 256) (a % 256) (b / 256) (b % 256)) = some (65536 * a + b) :=
    ipv4?_eq_some_iff.2 ⟨_, _, _, _, by omega, by omega, rfl⟩
  rw [expandSuffix, List.getLast?_concat]
  dsimp only
  rw [if_pos hdot, hvalue, Option.map_some, List.dropLast_concat,
    show (65536 * a + b) / 65536 = a by omega, show (65536 * a + b) % 65536 = b by omega]

/-- A character of an address without a scope. -/
def isAddressChar (c : Char) : Bool :=
  isHexDigit c || c = ':' || c = '.'

theorem isAddressChar_of_mem_intercalate {parts : List (List Char)}
    (hparts : ∀ part ∈ parts, ∀ c ∈ part, isHexDigit c = true ∨ c = '.') {c : Char}
    (hc : c ∈ [':'].intercalate parts) : isAddressChar c = true := by
  rw [isAddressChar, Bool.or_eq_true, Bool.or_eq_true, decide_eq_true_eq, decide_eq_true_eq]
  obtain hcolon | ⟨part, hpart, hmem⟩ := Text.mem_intercalate hc
  · exact .inl (.inr hcolon)
  · obtain hhex | hdot := hparts part hpart c hmem
    · exact .inl (.inl hhex)
    · exact .inr hdot

/-- An IPv6 address has eight groups; the last two are those that an IPv4 suffix replaces. -/
theorem exists_groups_of_ipv6Value? {text : List Char} {value : ℕ}
    (h : ipv6Value? text = some value) : ∃ front g g' hextets, front.length = 6 ∧
      (front ++ [g, g']).mapM hextet? = some hextets ∧
      value = hextets.foldl (fun value hextet ↦ 65536 * value + hextet) 0 := by
  rw [ipv6Value?] at h
  split at h
  · cases h
  obtain ⟨parts, -, h⟩ := Option.bind_eq_some_iff.1 h
  split at h
  · cases h
  obtain ⟨filled, hfilled, h⟩ := Option.bind_eq_some_iff.1 h
  obtain ⟨hextets, hhextets, hvalue⟩ := Option.bind_eq_some_iff.1 h
  have hlength := length_groups hfilled
  obtain ⟨g, g', hdrop⟩ := List.length_eq_two.1
    (show (filled.drop 6).length = 2 by rw [List.length_drop, hlength])
  refine ⟨filled.take 6, g, g', hextets, by simp [hlength], ?_, (Option.some.inj hvalue).symm⟩
  rw [← hdrop, List.take_append_drop]
  exact hhextets

/-- Groups that are read have a number and are written in hexadecimal digits. -/
theorem exists_hextet_of_mapM {parts : List (List Char)} {hextets : List ℕ}
    (h : parts.mapM hextet? = some hextets) {part : List Char} (hpart : part ∈ parts) :
    ∃ n, hextet? part = some n ∧ ∀ c ∈ part, isHexDigit c = true := by
  obtain ⟨n, -, hn⟩ := List.mem_map.1 (mapM_eq_some_iff.1 h ▸ List.mem_map_of_mem hpart)
  exact ⟨n, hn.symm, fun c hc ↦ isHexDigit_of_mem hn.symm hc⟩

/-- **Every IPv6 address has two spellings**: with and without an IPv4 suffix. -/
theorem exists_two_spellings {text : List Char} {value : ℕ} (h : ipv6Value? text = some value) :
    ∃ plain dotted, plain ≠ dotted ∧ ∀ body ∈ [plain, dotted],
      ipv6Value? body = some value ∧ ∀ c ∈ body, isAddressChar c = true := by
  obtain ⟨front, g, g', hextets, hfront, hhextets, rfl⟩ := exists_groups_of_ipv6Value? h
  obtain ⟨a, ha, -⟩ := exists_hextet_of_mapM hhextets (show g ∈ front ++ [g, g'] by simp)
  obtain ⟨b, hb, hlast⟩ := exists_hextet_of_mapM hhextets (show g' ∈ front ++ [g, g'] by simp)
  have hsuffix : (front ++ [Nat.toDigits 16 a, Nat.toDigits 16 b]).mapM hextet? = some hextets := by
    rw [mapM_eq_some_iff, ← mapM_eq_some_iff.1 hhextets, List.map_append, List.map_append]
    simp only [List.map_cons, List.map_nil, ha, hb, hextet?_toDigits (hextet?_lt ha),
      hextet?_toDigits (hextet?_lt hb)]
  have hcolon : ∀ parts : List (List Char),
      (∀ part ∈ parts, ∀ c ∈ part, isHexDigit c = true ∨ c = '.') → ∀ part ∈ parts, ':' ∉ part :=
    fun parts hparts part hpart hmem ↦ absurd (hparts part hpart ':' hmem) (by decide)
  have hplain : ∀ part ∈ front ++ [g, g'], ∀ c ∈ part, isHexDigit c = true ∨ c = '.' := by
    intro part hpart c hc
    obtain ⟨-, -, hhex⟩ := exists_hextet_of_mapM hhextets hpart
    exact .inl (hhex c hc)
  have hdotted : ∀ part ∈ front ++ [quad (a / 256) (a % 256) (b / 256) (b % 256)],
      ∀ c ∈ part, isHexDigit c = true ∨ c = '.' := by
    intro part hpart c hc
    rcases List.mem_append.1 hpart with hpart | hpart
    · exact hplain part (List.mem_append_left _ hpart) c hc
    · rw [List.mem_singleton.1 hpart] at hc
      refine (of_mem_quad hc).imp_left fun hdigit ↦ ?_
      rw [isHexDigit, hdigit]
      rfl
  refine ⟨_, _, fun heq ↦ ?_, List.forall_mem_cons.2 ⟨⟨?_, fun c hc ↦
    isAddressChar_of_mem_intercalate hplain hc⟩, List.forall_mem_singleton.2 ⟨?_,
    fun c hc ↦ isAddressChar_of_mem_intercalate hdotted hc⟩⟩⟩
  · -- eight parts are not seven
    have hparts := congrArg (List.splitOn ':') heq
    rw [List.splitOn_intercalate ':' (hcolon _ hplain) (by simp),
      List.splitOn_intercalate ':' (hcolon _ hdotted) (by simp)] at hparts
    simpa using congrArg List.length hparts
  · have hdot : '.' ∉ g' := fun hmem ↦ absurd (hlast '.' hmem) (by decide)
    have hexpand : expandSuffix (front ++ [g, g']) = some (front ++ [g, g']) := by
      have hgroup := expandSuffix_of_not_mem (front ++ [g]) hdot
      rwa [List.append_assoc] at hgroup
    exact ipv6Value?_intercalate (hcolon _ hplain) (by simp [hfront]) hexpand (by simp [hfront])
      hhextets
  · exact ipv6Value?_intercalate (hcolon _ hdotted) (by simp [hfront])
      (expandSuffix_quad front (hextet?_lt ha) (hextet?_lt hb)) (by simp [hfront]) hsuffix

/-- An address without a scope has a colon. -/
theorem colon_mem_of_ipv6Value? {text : List Char} {value : ℕ} (h : ipv6Value? text = some value) :
    ':' ∈ text := by
  by_contra hcolon
  rw [ipv6Value?, List.splitOn_eq_singleton hcolon] at h
  cases h

theorem ipv4?_of_colon {text : List Char} (h : ':' ∈ text) : ipv4? text = none := by
  refine Option.eq_none_iff_forall_ne_some.2 fun n hn ↦ ?_
  obtain ⟨a, b, c, d, -, -, rfl⟩ := ipv4?_eq_some_iff.1 hn
  exact absurd (of_mem_quad h) (by decide)

section Scope

variable {body : List Char}

theorem ne_percent_of_mem (hbody : ∀ c ∈ body, isAddressChar c = true) (c : Char) (hc : c ∈ body) :
    decide (c ≠ '%') = true := by
  refine decide_eq_true fun hpercent ↦ ?_
  rw [hpercent] at hc
  exact absurd (hbody _ hc) (by decide)

theorem dropWhile_append_scope (hbody : ∀ c ∈ body, isAddressChar c = true) (text : List Char) :
    (body ++ text.dropWhile (· ≠ '%')).dropWhile (· ≠ '%') = text.dropWhile (· ≠ '%') := by
  rw [List.dropWhile_append_of_pos (ne_percent_of_mem hbody), List.dropWhile_idempotent]

theorem takeWhile_append_scope (hbody : ∀ c ∈ body, isAddressChar c = true) (text : List Char) :
    (body ++ text.dropWhile (· ≠ '%')).takeWhile (· ≠ '%') = body := by
  have hscope : (text.dropWhile (· ≠ '%')).takeWhile (· ≠ '%') = [] := by
    rcases hdrop : text.dropWhile (· ≠ '%') with - | ⟨c, scope⟩
    · rfl
    · have hc := List.head?_dropWhile_not (· ≠ '%') text
      rw [hdrop] at hc
      exact List.takeWhile_cons_of_neg (by simpa using hc)
  rw [List.takeWhile_append_of_pos (ne_percent_of_mem hbody), hscope, List.append_nil]

end Scope

/-- The scope of an address may follow any spelling of its number. -/
theorem ipv6?_append {text : List Char} {value : ℕ} (h : ipv6? text = some value) :
    ipv6Value? (text.takeWhile (· ≠ '%')) = some value ∧
      ∀ body, (∀ c ∈ body, isAddressChar c = true) →
        ipv6? (body ++ text.dropWhile (· ≠ '%')) = ipv6Value? body := by
  rw [ipv6?, Option.ite_none_left_eq_some] at h
  obtain ⟨hslash, h⟩ := h
  have hslash' : ∀ body : List Char, (∀ c ∈ body, isAddressChar c = true) →
      '/' ∉ body ++ text.dropWhile (· ≠ '%') := by
    intro body hbody hmem
    rcases List.mem_append.1 hmem with hmem | hmem
    · exact absurd (hbody _ hmem) (by decide)
    · exact hslash ((List.dropWhile_sublist _).mem hmem)
  split at h
  · next hscope =>
    have htext := List.takeWhile_append_dropWhile (p := (· ≠ '%')) (l := text)
    rw [hscope, List.append_nil] at htext
    refine ⟨by rwa [htext], fun body hbody ↦ ?_⟩
    rw [ipv6?, if_neg (hslash' body hbody), dropWhile_append_scope hbody, hscope, List.append_nil]
  · next scope hscope =>
    rw [Option.ite_none_left_eq_some] at h
    obtain ⟨hvalid, h⟩ := h
    refine ⟨h, fun body hbody ↦ ?_⟩
    have htake := takeWhile_append_scope hbody text
    rw [ipv6?, if_neg (hslash' body hbody), dropWhile_append_scope hbody, htake, hscope]
    exact if_neg hvalid

/-- **An IPv6 address has another spelling**, with the same scope. -/
theorem exists_otherSpelling {text : String} {value : ℕ} (h : ofText? text = some ⟨.v6, value⟩) :
    ∃ body, body ≠ [] ∧ (∀ c ∈ body, isAddressChar c = true) ∧
      String.ofList (body ++ scopeOf text) ≠ text ∧
      SameAddress text (String.ofList (body ++ scopeOf text)) := by
  have hipv6 : ipv6? text.toList = some value := by
    rw [ofText?] at h
    split at h
    · simp at h
    · simpa using h
  obtain ⟨hvalue, hscope⟩ := ipv6?_append hipv6
  have hspelling : ∀ body, ipv6Value? body = some value → (∀ c ∈ body, isAddressChar c = true) →
      SameAddress text (String.ofList (body ++ scopeOf text)) := by
    intro body hbody hchars
    refine ⟨_, h, ?_, ?_⟩
    · have hcolon : ':' ∈ body ++ scopeOf text :=
        List.mem_append_left _ (colon_mem_of_ipv6Value? hbody)
      rw [ofText?, String.toList_ofList, ipv4?_of_colon hcolon, scopeOf, hscope body hchars, hbody]
      rfl
    · rw [scopeOf, scopeOf, String.toList_ofList, dropWhile_append_scope hchars]
  obtain ⟨plain, dotted, hne, hboth⟩ := exists_two_spellings hvalue
  obtain ⟨hplain, hplainChars⟩ := hboth plain (List.mem_cons_self ..)
  obtain ⟨hdotted, hdottedChars⟩ := hboth dotted (List.mem_cons_of_mem _ (List.mem_cons_self ..))
  by_cases hother : String.ofList (plain ++ scopeOf text) = text
  · refine ⟨dotted, List.ne_nil_of_mem (colon_mem_of_ipv6Value? hdotted), hdottedChars, ?_,
      hspelling dotted hdotted hdottedChars⟩
    intro hsame
    have hlists : plain ++ scopeOf text = dotted ++ scopeOf text :=
      String.ofList_injective (hother.trans hsame.symm)
    exact hne (List.append_cancel_right hlists)
  · exact ⟨plain, List.ne_nil_of_mem (colon_mem_of_ipv6Value? hplain), hplainChars, hother,
      hspelling plain hplain hplainChars⟩

end IpAddress
