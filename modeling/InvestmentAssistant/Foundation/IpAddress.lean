import InvestmentAssistant.Foundation.Text

/-!
# IP addresses as text

The textual addresses that a strict reader accepts, with the numbers they denote, and the networks
they belong to. IPv4 is four decimal octets without leading zeros. IPv6 is eight hexadecimal groups,
of which one run of zeros may be left out and the last two may be written as IPv4; a scope may
follow after a percent sign, and does not matter to the networks.

An address begins with a hexadecimal digit or a colon (`ofText?_eq_none`), which keeps it apart from
any text that begins otherwise.
-/

namespace IpAddress

open Text

/-- The versions of the protocol. -/
inductive Version
  | v4
  | v6
  deriving DecidableEq, Repr

/-- An address: its version and its number. -/
structure Address where
  version : Version
  value : ℕ
  deriving DecidableEq, Repr

/-- A network: the number of its first address, and its mask. -/
structure Network where
  version : Version
  networkAddress : ℕ
  netmask : ℕ
  deriving DecidableEq, Repr

/-- The address belongs to the network. -/
def Network.Contains (network : Network) (address : Address) : Prop :=
  address.version = network.version ∧ address.value &&& network.netmask = network.networkAddress

instance (network : Network) (address : Address) : Decidable (network.Contains address) :=
  inferInstanceAs (Decidable (_ ∧ _))

/-! ### IPv4 -/

/-- The value of digits in a base. -/
def valueOf (base : ℕ) (digit : Char → ℕ) (digits : List Char) : ℕ :=
  digits.foldl (fun value c ↦ base * value + digit c) 0

/-- The value of an ASCII digit. -/
def decimalDigit (c : Char) : ℕ :=
  c.toNat - '0'.toNat

/-- One to three ASCII digits without a leading zero, at most 255. -/
def octet? (text : List Char) : Option ℕ :=
  if text ≠ [] ∧ text.all Char.isDigit ∧ text.length ≤ 3 ∧ (text = ['0'] ∨ text.head? ≠ some '0') ∧
      valueOf 10 decimalDigit text ≤ 255 then
    some (valueOf 10 decimalDigit text)
  else none

/-- Four octets. -/
def ipv4? (text : List Char) : Option ℕ :=
  match text.splitOn '.' with
  | [a, b, c, d] => do
    let octets ← [a, b, c, d].mapM octet?
    return octets.foldl (fun value octet ↦ 256 * value + octet) 0
  | _ => none

/-! ### IPv6 -/

/-- An ASCII hexadecimal digit. -/
def isHexDigit (c : Char) : Bool :=
  c.isDigit || ('a' ≤ c && c ≤ 'f') || ('A' ≤ c && c ≤ 'F')

/-- The value of a hexadecimal digit. -/
def hexDigit (c : Char) : ℕ :=
  if c.isDigit then decimalDigit c else c.toLower.toNat - 'a'.toNat + 10

/-- One to four hexadecimal digits. -/
def hextet? (text : List Char) : Option ℕ :=
  if text ≠ [] ∧ text.all isHexDigit ∧ text.length ≤ 4 then some (valueOf 16 hexDigit text)
  else none

/-- The parts between the colons, with an IPv4 suffix written as two groups. -/
def expandSuffix (parts : List (List Char)) : Option (List (List Char)) :=
  match parts.getLast? with
  | some last =>
    if '.' ∈ last then
      (ipv4? last).map fun value ↦
        parts.dropLast ++ [Nat.toDigits 16 (value / 65536), Nat.toDigits 16 (value % 65536)]
    else some parts
  | none => none

/-- The positions of the empty parts that are neither the first nor the last. -/
def skips (parts : List (List Char)) : List ℕ :=
  (List.range parts.length).filter fun i ↦
    decide (0 < i ∧ i + 1 < parts.length ∧ parts[i]? = some [])

/-- The parts on one side of a double colon; an empty one is only the double colon at that end. -/
def besideSkip (side : List (List Char)) (outermost : Option (List Char)) :
    Option (List (List Char)) :=
  if outermost = some [] then if side.length = 1 then some [] else none else some side

/-- The groups, with those that a double colon leaves out. -/
def groups (parts : List (List Char)) : Option (List (List Char)) :=
  match skips parts with
  | [] =>
    if parts.length = 8 ∧ parts.head? ≠ some [] ∧ parts.getLast? ≠ some [] then some parts else none
  | [skip] => do
    let hi ← besideSkip (parts.take skip) parts.head?
    let lo ← besideSkip (parts.drop (skip + 1)) parts.getLast?
    if 8 ≤ hi.length + lo.length then none
    else return hi ++ List.replicate (8 - (hi.length + lo.length)) ['0'] ++ lo
  | _ => none

/-- An IPv6 address without a scope. -/
def ipv6Value? (text : List Char) : Option ℕ := do
  let parts := text.splitOn ':'
  if parts.length < 3 then none
  else
    let parts ← expandSuffix parts
    if 9 < parts.length then none
    else
      let hextets ← (← groups parts).mapM hextet?
      return hextets.foldl (fun value hextet ↦ 65536 * value + hextet) 0

/-- An IPv6 address; a scope is not empty and has no percent sign. -/
def ipv6? (text : List Char) : Option ℕ :=
  if '/' ∈ text then none
  else
    match text.dropWhile (· ≠ '%') with
    | [] => ipv6Value? text
    | _ :: scope =>
      if scope = [] ∨ '%' ∈ scope then none else ipv6Value? (text.takeWhile (· ≠ '%'))

/-- The address a text denotes: an IPv4 address, or else an IPv6 address. -/
def ofText? (text : String) : Option Address :=
  match ipv4? text.toList with
  | some value => some ⟨.v4, value⟩
  | none => (ipv6? text.toList).map (⟨.v6, ·⟩)

example : ofText? "::ffff:1.2.3.4" = some ⟨.v6, 0xffff01020304⟩ := by decide +kernel

/-! ### How addresses begin -/

section Head

variable {c : Char} {rest : List Char}

theorem ipv4?_cons_eq_none (hdigit : c.isDigit = false) (hdot : c ≠ '.') :
    ipv4? (c :: rest) = none := by
  obtain ⟨piece, pieces, hsplit⟩ := exists_splitOn_cons hdot rest
  have hoctet : octet? (c :: piece) = none := by
    refine if_neg fun h ↦ ?_
    have hall := List.all_eq_true.1 h.2.1 c (List.mem_cons_self ..)
    exact absurd hall (Bool.eq_false_iff.1 hdigit)
  rw [ipv4?, hsplit]
  split
  · next heq =>
    obtain ⟨rfl, -⟩ := List.cons.inj heq
    rw [List.mapM_cons, hoctet]
    rfl
  · rfl

/-- A group that begins with another character spoils the address. -/
theorem mapM_hextet?_cons_eq_none (hhex : isHexDigit c = false) (parts : List (List Char)) :
    ((c :: rest) :: parts).mapM hextet? = none := by
  have hhextet : hextet? (c :: rest) = none := by
    refine if_neg fun h ↦ ?_
    have hall := List.all_eq_true.1 h.2.1 c (List.mem_cons_self ..)
    exact absurd hall (Bool.eq_false_iff.1 hhex)
  rw [List.mapM_cons, hhextet]
  rfl

/-- The first part stays the first one when the suffix is expanded. -/
theorem head?_of_expandSuffix {part : List Char} {parts parts' : List (List Char)}
    (hparts : parts ≠ []) (h : expandSuffix (part :: parts) = some parts') :
    ∃ parts'', parts' = part :: parts'' := by
  rw [expandSuffix, List.getLast?_cons] at h
  dsimp only at h
  split at h
  · obtain ⟨value, -, rfl⟩ := Option.map_eq_some_iff.1 h
    rw [List.dropLast_cons_of_ne_nil hparts]
    exact ⟨_, rfl⟩
  · exact ⟨parts, (Option.some.inj h).symm⟩

/-- And when zeros are filled in. -/
theorem head?_of_groups {part : List Char} {parts filled : List (List Char)} (hpart : part ≠ [])
    (h : groups (part :: parts) = some filled) : ∃ filled', filled = part :: filled' := by
  rw [groups] at h
  split at h
  · split at h
    · exact ⟨parts, (Option.some.inj h).symm⟩
    · exact nomatch h
  · next skip hskip =>
    -- the double colon is not before the first part
    have hpos : 0 < skip := by
      have hmem : skip ∈ skips (part :: parts) := hskip ▸ List.mem_singleton_self skip
      exact (of_decide_eq_true (List.mem_filter.1 hmem).2).1
    obtain ⟨n, rfl⟩ := Nat.exists_eq_succ_of_ne_zero hpos.ne'
    rw [List.head?_cons, besideSkip, if_neg (by simpa using hpart), List.take_succ_cons] at h
    obtain ⟨hi, hhi, h⟩ := Option.bind_eq_some_iff.1 h
    obtain rfl := Option.some.inj hhi
    obtain ⟨lo, -, h⟩ := Option.bind_eq_some_iff.1 h
    split at h
    · exact nomatch h
    · exact ⟨_, (Option.some.inj h).symm⟩
  · exact nomatch h

theorem ipv6Value?_cons_eq_none (hhex : isHexDigit c = false) (hcolon : c ≠ ':') :
    ipv6Value? (c :: rest) = none := by
  obtain ⟨piece, pieces, hsplit⟩ := exists_splitOn_cons hcolon rest
  refine Option.eq_none_iff_forall_ne_some.2 fun value h ↦ ?_
  rw [ipv6Value?, hsplit] at h
  split at h
  · exact nomatch h
  · next hlength =>
    have hpieces : pieces ≠ [] := by
      rintro rfl
      simp at hlength
    obtain ⟨parts, hparts, h⟩ := Option.bind_eq_some_iff.1 h
    obtain ⟨parts', rfl⟩ := head?_of_expandSuffix hpieces hparts
    split at h
    · exact nomatch h
    · obtain ⟨filled, hfilled, h⟩ := Option.bind_eq_some_iff.1 h
      obtain ⟨filled', rfl⟩ := head?_of_groups (List.cons_ne_nil _ _) hfilled
      rw [mapM_hextet?_cons_eq_none hhex] at h
      exact nomatch h

/-- **A text that begins otherwise is no address.** -/
theorem ofText?_eq_none {text : String} (htext : text.toList = c :: rest)
    (hhex : isHexDigit c = false) (hother : c ∉ [':', '.', '%']) : ofText? text = none := by
  simp only [List.mem_cons, List.not_mem_nil, or_false, not_or] at hother
  obtain ⟨hcolon, hdot, hpercent⟩ := hother
  have hdigit : c.isDigit = false := by
    rw [isHexDigit, Bool.or_eq_false_iff, Bool.or_eq_false_iff] at hhex
    exact hhex.1.1
  have hipv6 : ipv6? (c :: rest) = none := by
    rw [ipv6?]
    split
    · rfl
    · split
      · exact ipv6Value?_cons_eq_none hhex hcolon
      · split
        · rfl
        · rw [List.takeWhile_cons_of_pos (by simpa using hpercent)]
          exact ipv6Value?_cons_eq_none hhex hcolon
  rw [ofText?, htext, ipv4?_cons_eq_none hdigit hdot, hipv6]
  rfl

end Head

end IpAddress
