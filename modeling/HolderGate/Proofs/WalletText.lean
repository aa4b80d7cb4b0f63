import Mathlib.Data.List.Induction
import Mathlib.Data.List.TakeWhile
import HolderGate.Proofs.HexText
import HolderGate.Proofs.JsonText

/-! The texts that name a wallet. There are many for each, in either case, with a mark or none and with blanks around
them, and all are read as the one wallet of the octets that they write. -/
namespace HolderGate

theorem bigEndianOfBigEndian (octets : Bytes) : bigEndian octets.length (ofBigEndian octets) = octets := by
  induction octets using List.reverseRecOn with
  | nil => rfl
  | append_singleton octets octet ih =>
    have bound := octet.toNat_lt
    have high : (256 * ofBigEndian octets + octet.toNat) / 256 = ofBigEndian octets := by omega
    have low : UInt8.ofNat (256 * ofBigEndian octets + octet.toNat) = octet := by
      apply UInt8.toNat_inj.mp
      rw [UInt8.toNat_ofNat']
      omega
    rw [List.length_append, List.length_singleton, ofBigEndianAppend, bigEndian, high, low, ih]

theorem ofBigEndianBound (octets : Bytes) : ofBigEndian octets < Nat.pow 256 octets.length := by
  have reduced := ofBigEndianBigEndian octets.length (ofBigEndian octets)
  rw [bigEndianOfBigEndian] at reduced
  calc ofBigEndian octets
    _ = ofBigEndian octets % Nat.pow 256 octets.length := reduced
    _ < Nat.pow 256 octets.length := Nat.mod_lt _ (Nat.pow_pos (by decide))

namespace Text

variable {cs core before after : List Char} {c : Char}

theorem trimLeftSplit (cs : List Char) : ∃ before, (∀ c ∈ before, isBlank c = true) ∧ cs = before ++ trimLeft cs :=
  ⟨cs.takeWhile isBlank, fun _ member => List.mem_takeWhile_imp member, List.takeWhile_append_dropWhile.symm⟩

theorem trimSplit (cs : List Char) : ∃ before after, (∀ c ∈ before ++ after, isBlank c = true) ∧
    cs = before ++ trimChars cs ++ after := by
  obtain ⟨before, blankBefore, split⟩ := trimLeftSplit cs
  obtain ⟨after, blankAfter, ends⟩ := trimLeftSplit (trimLeft cs).reverse
  refine ⟨before, after.reverse, fun c member => ?_, ?_⟩
  · rcases List.mem_append.mp member with first | last
    · exact blankBefore c first
    · exact blankAfter c (List.mem_reverse.mp last)
  · have whole : trimLeft cs = trimChars cs ++ after.reverse := by
      rw [trimChars, trimRight, ← List.reverse_append, ← ends, List.reverse_reverse]
    rw [List.append_assoc, ← whole, ← split]

theorem trimLeftBetween (blank : ∀ c ∈ before, isBlank c = true) (some : core ≠ [])
    (plain : ∀ c ∈ core, isBlank c = false) : trimLeft (before ++ (core ++ after)) = core ++ after := by
  rw [trimLeft, List.dropWhile_append_of_pos blank]
  cases core with
  | nil => contradiction
  | cons c core => exact List.dropWhile_cons_of_neg (by simp [plain c List.mem_cons_self])

theorem trimBetween (blank : ∀ c ∈ before ++ after, isBlank c = true) (some : core ≠ [])
    (plain : ∀ c ∈ core, isBlank c = false) : trimChars (before ++ core ++ after) = core := by
  have blankBefore : ∀ c ∈ before, isBlank c = true := fun c member => blank c (List.mem_append_left _ member)
  have blankAfter : ∀ c ∈ after.reverse, isBlank c = true := fun c member =>
    blank c (List.mem_append_right _ (List.mem_reverse.mp member))
  have turned : trimLeft (after.reverse ++ core.reverse) = core.reverse := by
    have between := @trimLeftBetween core.reverse after.reverse [] blankAfter (List.reverse_ne_nil_iff.mpr some)
      fun c member => plain c (List.mem_reverse.mp member)
    rwa [List.append_nil] at between
  rw [trimChars, List.append_assoc, trimLeftBetween blankBefore some plain, trimRight, List.reverse_append, turned,
    List.reverse_reverse]

namespace Hex

def digitChars : List Char := "0123456789abcdefABCDEF".toList

variable {octets : Bytes} {n k : Nat}

theorem digitCharIff : c ∈ digitChars ↔ ∃ k, hexValue? c = some k := by
  rw [← Option.isSome_iff_exists]
  by_cases plain : c.toNat < 128
  · have same := plainEvery (p := fun c => decide (c ∈ digitChars) == (hexValue? c).isSome) (by decide) plain
    rw [← beq_iff_eq.mp same, decide_eq_true_iff]
  · have small : ∀ d ∈ digitChars, d.toNat < 128 := by
      have every : digitChars.all (·.toNat < 128) = true := by decide
      simpa using every
    exact iff_of_false (fun member => plain (small c member)) (by simp [valueWide (Nat.not_lt.mp plain)])

theorem valueLower (c : Char) : hexValue? c.toLower = hexValue? c := by
  by_cases plain : c.toNat < 128
  · exact beq_iff_eq.mp (plainEvery (p := fun c => hexValue? c.toLower == hexValue? c) (by decide) plain)
  · rw [lowerWide (Nat.not_lt.mp plain)]

theorem digitsLower (cs : List Char) : Numeral.digits? 16 (cs.map Char.toLower) = Numeral.digits? 16 cs := by
  have same : ∀ c : Char, (value? c.toLower).filter (· < 16) = (value? c).filter (· < 16) := valueLower
  simp only [Numeral.digits?, List.foldlM_map, same]

theorem digitsEvery (start : Nat)
    (read : cs.foldlM (fun n c => ((value? c).filter (· < 16)).map (16 * n + ·)) start = some n) :
    cs ⊆ digitChars := by
  induction cs generalizing start with
  | nil => exact List.nil_subset _
  | cons c cs ih =>
    rw [List.foldlM_cons, Option.bind_eq_bind, Option.bind_eq_some_iff] at read
    obtain ⟨next, one, rest⟩ := read
    obtain ⟨k, value, _⟩ := Option.map_eq_some_iff.mp one
    exact List.cons_subset.mpr ⟨digitCharIff.mpr ⟨k, value⟩, ih next rest⟩

theorem octetsWritten (length : cs.length = 2 * k) (each : cs ⊆ digitChars) :
    ∃ octets, octets.length = k ∧ cs.map Char.toLower = digits octets := by
  induction k generalizing cs with
  | zero => exact ⟨[], rfl, by simp [List.length_eq_zero_iff.mp length, digits]⟩
  | succ k ih =>
    rcases cs with _ | ⟨high, _ | ⟨low, rest⟩⟩
    · simp at length
    · simp at length
      omega
    · have fewer : rest.length = 2 * k := by
        simp only [List.length_cons] at length
        omega
      obtain ⟨first, more⟩ := List.cons_subset.mp each
      obtain ⟨second, each⟩ := List.cons_subset.mp more
      obtain ⟨octets, count, written⟩ := ih fewer each
      obtain ⟨h, first⟩ := digitCharIff.mp first
      obtain ⟨l, second⟩ := digitCharIff.mp second
      exact ⟨UInt8.ofNat (16 * h + l) :: octets, by simp [count],
        pairsCons.mpr ⟨_, _, rfl, ⟨h, l, first, second, rfl⟩, written⟩⟩

end Hex
end Text

namespace Chain.Address
open Text

variable {s : String} {a b : Address} {octets : Bytes}

theorem octetsOf (length : octets.length = 20) : (ofOctets octets).octets = octets := by
  have bound : ofBigEndian octets < 2 ^ 160 := by
    have width : Nat.pow 256 20 = 2 ^ 160 := by decide
    rw [← width, ← length]
    exact ofBigEndianBound octets
  rw [Address.octets, ofOctets, BitVec.toNat_ofNat, Nat.mod_eq_of_lt bound, ← length, bigEndianOfBigEndian]

theorem ofOctetsOctets (a : Address) : ofOctets a.octets = a := by
  have small : a.toNat % Nat.pow 256 20 = a.toNat := Nat.mod_eq_of_lt a.isLt
  rw [ofOctets, octets, ofBigEndianBigEndian, small, BitVec.ofNat_toNat, BitVec.setWidth_eq]

theorem octetsInjective (same : a.octets = b.octets) : a = b := by
  rw [← ofOctetsOctets a, same, ofOctetsOctets]

theorem parseIff : parse? s = some a ↔ Hex.Writes s a.octets := by
  rw [Hex.writesIff, parse?]
  generalize Hex.unmark s.toList = cs
  constructor
  · intro read
    split at read
    next length =>
      obtain ⟨n, value, rfl⟩ := Option.map_eq_some_iff.mp read
      have forty : cs.length = 2 * 20 := length
      obtain ⟨octets, count, written⟩ := Hex.octetsWritten forty (Hex.digitsEvery 0 value)
      rw [← Hex.digitsLower, written, Hex.digitsRead] at value
      cases value
      rw [written]
      exact congrArg Hex.digits (octetsOf count).symm
    next => contradiction
  · intro written
    have length : cs.length = 40 := by
      rw [← List.length_map Char.toLower, written, Hex.digitsLength, octetsLength]
    rw [if_pos length, ← Hex.digitsLower, written, Hex.digitsRead]
    exact congrArg some (ofOctetsOctets a)

end Chain.Address

namespace Identity
open Chain Text

def Spells (s : String) (digits : List Char) : Prop :=
  ∃ before after, ∃ mark ∈ ["", "0x", "0X"], (∀ c ∈ before ++ after, isBlank c = true) ∧
    s.toList = before ++ (mark.toList ++ digits) ++ after ∧ digits.length = 40 ∧ digits ⊆ Hex.digitChars

def Denotes (s : String) (octets : Bytes) : Prop :=
  ∃ digits, Spells s digits ∧ digits.map Char.toLower = Hex.digits octets

namespace Wallet

variable {s t : String} {v w : Wallet} {digits : List Char} {octets : Bytes}

theorem spelledPlain {mark : String} (among : mark ∈ ["", "0x", "0X"]) (each : digits ⊆ Hex.digitChars) :
    ∀ c ∈ mark.toList ++ digits, isBlank c = false := by
  have chars : ('x' :: 'X' :: Hex.digitChars).all (!isBlank ·) = true := by decide
  have marks : ∀ mark ∈ ["", "0x", "0X"], mark.toList ⊆ 'x' :: 'X' :: Hex.digitChars := by decide
  intro c member
  have whole : c ∈ 'x' :: 'X' :: Hex.digitChars := by
    rcases List.mem_append.mp member with first | last
    · exact marks mark among first
    · exact List.mem_cons_of_mem _ (List.mem_cons_of_mem _ (each last))
  simpa using List.all_eq_true.mp chars c whole

theorem denotesIff : Denotes s octets ↔ Hex.Writes (trim s) octets ∧ octets.length = 20 := by
  constructor
  · rintro ⟨digits, ⟨before, after, mark, among, blank, whole, length, each⟩, lower⟩
    have some : mark.toList ++ digits ≠ [] := by
      intro none
      rw [(List.append_eq_nil_iff.mp none).2] at length
      contradiction
    have trimmed : (trim s).toList = mark.toList ++ digits := by
      rw [trim, String.toList_ofList, whole, trimBetween blank some (spelledPlain among each)]
    refine ⟨⟨mark, among, digits, trimmed, lower⟩, ?_⟩
    rw [← List.length_map Char.toLower, lower, Hex.digitsLength] at length
    omega
  · rintro ⟨⟨mark, among, digits, trimmed, lower⟩, length⟩
    obtain ⟨before, after, blank, whole⟩ := trimSplit s.toList
    rw [trim, String.toList_ofList] at trimmed
    refine ⟨digits, ⟨before, after, mark, among, blank, trimmed ▸ whole, ?_, ?_⟩, lower⟩
    · rw [← List.length_map Char.toLower, lower, Hex.digitsLength, length]
    · exact fun _ member => Hex.digitCharIff.mpr (Hex.digitsEach lower member)

theorem parseIff : parse? s = some w ↔ Denotes s w.address.octets := by
  rw [denotesIff, ← Address.parseIff, parse?, Option.map_eq_some_iff]
  simp only [Address.octetsLength, and_true]
  constructor
  · rintro ⟨a, read, rfl⟩
    rwa [addressOfAddress]
  · intro read
    exact ⟨w.address, read, ofAddressAddress w⟩

theorem denotesOnce {other : Bytes} (first : Denotes s octets) (second : Denotes s other) : octets = other :=
  Hex.writesOnce (denotesIff.mp first).1 (denotesIff.mp second).1

theorem spelledDenotes (spells : Spells s digits) : ∃ octets, Denotes s octets ∧ octets.length = 20 ∧
    digits.map Char.toLower = Hex.digits octets := by
  have ⟨_, _, _, _, _, _, length, each⟩ := spells
  obtain ⟨octets, count, lower⟩ := Hex.octetsWritten (k := 20) length each
  exact ⟨octets, ⟨digits, spells, lower⟩, count, lower⟩

theorem parsedIff : (∃ w, parse? s = some w) ↔ ∃ digits, Spells s digits := by
  constructor
  · rintro ⟨w, read⟩
    obtain ⟨digits, spells, _⟩ := parseIff.mp read
    exact ⟨digits, spells⟩
  · rintro ⟨digits, spells⟩
    obtain ⟨octets, denotes, count, _⟩ := spelledDenotes spells
    refine ⟨ofAddress (.ofOctets octets), parseIff.mpr ?_⟩
    rwa [addressOfAddress, Address.octetsOf count]

theorem parsedText (read : parse? s = some w) (spells : Spells s digits) :
    w.text = "0x" ++ String.ofList (digits.map Char.toLower) := by
  obtain ⟨octets, denotes, _, lower⟩ := spelledDenotes spells
  have same := denotesOnce denotes (parseIff.mp read)
  rw [lower, same]
  exact congrArg text (ofAddressAddress w).symm

theorem parsedSame (first : parse? s = some v) (second : parse? t = some w) :
    v = w ↔ ∃ octets, Denotes s octets ∧ Denotes t octets := by
  constructor
  · rintro rfl
    exact ⟨_, parseIff.mp first, parseIff.mp second⟩
  · rintro ⟨octets, here, there⟩
    have same : v.address.octets = w.address.octets :=
      (denotesOnce (parseIff.mp first) here).trans (denotesOnce there (parseIff.mp second))
    rw [← ofAddressAddress v, Address.octetsInjective same, ofAddressAddress]

theorem codecRead {input rest : Bytes} : codec.read input = .ok (w, rest) ↔
    ∃ s, Json.string input = .ok (s, rest) ∧ parse? s = some w := by
  rw [codec, Json.Codec.such, Json.suchIff]
  rfl

/-- A wallet is read from the texts that write the octets of its address and from no others. So it is the same wallet
for all of them, its own text is one of them, and from that the address is never missed. -/
theorem oneKey :
    (∀ s, (∃ w, parse? s = some w) ↔ ∃ digits, Spells s digits) ∧
    (∀ s w digits, parse? s = some w → Spells s digits →
      w.text = "0x" ++ String.ofList (digits.map Char.toLower)) ∧
    (∀ s t v w, parse? s = some v → parse? t = some w → (v = w ↔ ∃ octets, Denotes s octets ∧ Denotes t octets)) ∧
    (∀ s w octets, parse? s = some w → (Denotes s octets ↔ w.address.octets = octets)) ∧
    (∀ input w rest, codec.read input = .ok (w, rest) ↔ ∃ s, Json.string input = .ok (s, rest) ∧ parse? s = some w) ∧
    (∀ w : Wallet, Address.parse? w.text = some w.address ∧ ofAddress w.address = w ∧ parse? w.text = some w) ∧
    ∀ a, (ofAddress a).address = a := by
  refine ⟨fun _ => parsedIff, fun _ _ _ => parsedText, fun _ _ _ _ => parsedSame, fun s w octets read => ?_,
    fun _ _ _ => codecRead, fun w => ⟨?_, ofAddressAddress w, parseText w⟩, addressOfAddress⟩
  · have own := parseIff.mp read
    exact ⟨denotesOnce own, fun same => same ▸ own⟩
  · obtain ⟨a, written⟩ := w.normal
    rw [address, ← written, Address.parseText, Option.getD_some]

theorem oneKeyTwice : ∃ w,
    parse? "\u2003 0XabABAbABabABaBABabABabABabABabABabABabAb\n" = some w ∧
    parse? "abababababababababababababababababababab" = some w ∧
    w.text = "0xabababababababababababababababababababab" ∧
    w.address.octets = List.replicate 20 0xAB ∧
    codec.read (Json.quoted "abababababababababababababababababababab") = .ok (w, []) := by
  have ⟨accepted, text, same, octets, read, _⟩ := oneKey
  have blanks : Spells "\u2003 0XabABAbABabABaBABabABabABabABabABabABabAb\n"
      "abABAbABabABaBABabABabABabABabABabABabAb".toList :=
    ⟨"\u2003 ".toList, "\n".toList, "0X", by simp, List.all_eq_true.mp (by decide), by decide, rfl, by decide⟩
  have plain : Spells "abababababababababababababababababababab" "abababababababababababababababababababab".toList :=
    ⟨[], [], "", by simp, List.all_eq_true.mp (by decide), by decide, rfl, by decide⟩
  have first : Denotes _ (List.replicate 20 0xAB) := ⟨_, blanks, by decide⟩
  have second : Denotes _ (List.replicate 20 0xAB) := ⟨_, plain, by decide⟩
  obtain ⟨v, parsed⟩ := (accepted _).mpr ⟨_, blanks⟩
  obtain ⟨w, again⟩ := (accepted _).mpr ⟨_, plain⟩
  have one : v = w := (same _ _ _ _ parsed again).mpr ⟨_, first, second⟩
  subst one
  have whole := Json.textRead "abababababababababababababababababababab" []
  rw [List.append_nil] at whole
  exact ⟨v, parsed, again, (text _ _ _ again plain).trans (by decide), (octets _ _ _ again).mp second,
    (read _ _ _).mpr ⟨_, whole, again⟩⟩

end Wallet
end Identity
end HolderGate
