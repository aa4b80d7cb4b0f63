import HolderGate.Proofs.AddressText

/-! Texts that write octets in hexadecimal: two digits each, of either case, after a mark or none. Such a text is read
as its octets, and no other text is read. -/
namespace HolderGate.Text.Hex

def Writes (s : String) (octets : Bytes) : Prop :=
  ∃ mark ∈ ["", "0x", "0X"], ∃ cs, s.toList = mark.toList ++ cs ∧ cs.map Char.toLower = digits octets

variable {s : String} {octets body : Bytes} {cs : List Char} {c d : Char} {k : Nat}

theorem lowerWide (wide : 128 ≤ c.toNat) : c.toLower = c := by
  refine dif_neg fun upper => ?_
  have order : c.toNat ≤ 90 := UInt32.le_iff_toNat_le.mp upper.2
  omega

theorem valueWide (wide : 128 ≤ c.toNat) : hexValue? c = none := by
  have beyond : ∀ d : Char, d.toNat < 128 → ¬ c ≤ d := by
    intro d plain least
    have order : c.toNat ≤ d.toNat := UInt32.le_iff_toNat_le.mp (Char.le_def.mp least)
    omega
  simp [hexValue?, value?, beyond '9' (by decide), beyond 'z' (by decide), beyond 'Z' (by decide)]

theorem plainEvery {p : Char → Bool} (each : (List.range 128).all (fun n => p (Char.ofNat n)) = true)
    (plain : c.toNat < 128) : p c = true := by
  have tried := List.all_eq_true.mp each c.toNat (List.mem_range.mpr plain)
  rwa [Char.ofNat_toNat] at tried

theorem digitIff : hexValue? c = some k ↔ k < 16 ∧ c.toLower = Nat.digitChar k := by
  by_cases plain : c.toNat < 128
  · have each : ∀ n < 128, ∀ k < 16,
        hexValue? (Char.ofNat n) = some k ↔ (Char.ofNat n).toLower = Nat.digitChar k := by decide
    have bound : hexValue? c = some k → k < 16 := fun found => by
      simpa using (Option.filter_eq_some_iff.mp found).2
    have same := each c.toNat plain k
    rw [Char.ofNat_toNat] at same
    exact ⟨fun found => ⟨bound found, (same (bound found)).mp found⟩, fun ⟨small, lower⟩ => (same small).mpr lower⟩
  · have wide := Nat.not_lt.mp plain
    have digit : ∀ k < 16, (Nat.digitChar k).toNat < 128 := by decide
    rw [valueWide wide, lowerWide wide]
    refine iff_of_false (by simp) ?_
    rintro ⟨small, rfl⟩
    exact plain (digit k small)

theorem pairIff {octet : UInt8} : [c.toLower, d.toLower] = digits [octet] ↔
    ∃ h l, hexValue? c = some h ∧ hexValue? d = some l ∧ UInt8.ofNat (16 * h + l) = octet := by
  have bound := octet.toNat_lt
  have written : digits [octet] = [Nat.digitChar (octet.toNat / 16 % 16), Nat.digitChar (octet.toNat % 16)] := rfl
  rw [written]
  constructor
  · intro same
    obtain ⟨high, low⟩ : c.toLower = _ ∧ d.toLower = _ := by simpa using same
    refine ⟨_, _, digitIff.mpr ⟨Nat.mod_lt _ (by decide), high⟩, digitIff.mpr ⟨Nat.mod_lt _ (by decide), low⟩, ?_⟩
    have whole : 16 * (octet.toNat / 16 % 16) + octet.toNat % 16 = octet.toNat := by omega
    rw [whole, UInt8.ofNat_toNat]
  · rintro ⟨h, l, high, low, rfl⟩
    obtain ⟨smallHigh, high⟩ := digitIff.mp high
    obtain ⟨smallLow, low⟩ := digitIff.mp low
    have value : (UInt8.ofNat (16 * h + l)).toNat = 16 * h + l := by
      rw [UInt8.toNat_ofNat', Nat.mod_eq_of_lt (by omega)]
    have first : (16 * h + l) / 16 % 16 = h := by omega
    have second : (16 * h + l) % 16 = l := by omega
    rw [value, first, second, high, low]

theorem pairsCons : c.toLower :: d.toLower :: cs = digits octets ↔ ∃ octet rest, octets = octet :: rest ∧
    (∃ h l, hexValue? c = some h ∧ hexValue? d = some l ∧ UInt8.ofNat (16 * h + l) = octet) ∧ cs = digits rest := by
  cases octets with
  | nil => simp [digits]
  | cons octet rest =>
    have first : digits (octet :: rest) = digit (octet.toNat / 16) :: digit octet.toNat :: digits rest := rfl
    have pair : [c.toLower, d.toLower] = digits [octet] ↔
        c.toLower = digit (octet.toNat / 16) ∧ d.toLower = digit octet.toNat := by simp [digits]
    rw [first, List.cons.injEq, List.cons.injEq, ← and_assoc, ← pair, pairIff]
    constructor
    · rintro ⟨value, tail⟩
      exact ⟨octet, rest, rfl, value, tail⟩
    · rintro ⟨_, _, same, value, tail⟩
      cases same
      exact ⟨value, tail⟩

theorem pairsIff (index : Nat) (even : body.length % 2 = 0) : pairs index body = .ok octets ↔
    body.map (fun b => (Char.ofNat b.toNat).toLower) = digits octets := by
  fun_induction pairs index body generalizing octets with
  | case1 index high low rest none =>
    rw [List.map_cons, List.map_cons, pairsCons]
    simp [none]
  | case2 index high low rest h some none =>
    rw [List.map_cons, List.map_cons, pairsCons]
    simp [none]
  | case3 index high low rest h first l second defect failed ih =>
    rw [List.map_cons, List.map_cons, pairsCons]
    have shorter : rest.length % 2 = 0 := by simp only [List.length_cons] at even; omega
    simp [← ih shorter, failed]
  | case4 index high low rest h first l second tail read ih =>
    rw [List.map_cons, List.map_cons, pairsCons]
    have shorter : rest.length % 2 = 0 := by simp only [List.length_cons] at even; omega
    simp [← ih shorter, first, second, read, eq_comm]
  | case5 body index short =>
    match body with
    | [] => cases octets <;> simp [digits]
    | [b] => simp at even
    | high :: low :: rest => exact absurd rfl (short _ _ _)

theorem encodePlain (plain : c.toNat < 128) : String.utf8EncodeChar c = [UInt8.ofNat c.toNat] :=
  if_pos (Nat.le_of_lt_succ plain)

theorem encodeWide (wide : 128 ≤ c.toNat) : ∃ b ∈ String.utf8EncodeChar c, 128 ≤ b.toNat := by
  have beyond : ¬ c.val.toNat ≤ 127 := Nat.not_le.mpr wide
  unfold String.utf8EncodeChar
  simp only [beyond, if_false]
  split
  · exact ⟨_, List.mem_cons_self, by simp; omega⟩
  · split
    · exact ⟨_, List.mem_cons_self, by simp; omega⟩
    · exact ⟨_, List.mem_cons_self, by simp; omega⟩

theorem octetsPlain (plain : ∀ c ∈ cs, c.toNat < 128) :
    (utf8 (String.ofList cs)).map (fun b => Char.ofNat b.toNat) = cs := by
  rw [utf8OfList]
  induction cs with
  | nil => rfl
  | cons c cs ih =>
    have first := plain c List.mem_cons_self
    rw [List.flatMap_cons, encodePlain first, List.singleton_append, List.map_cons,
      ih fun d member => plain d (List.mem_cons_of_mem _ member), UInt8.toNat_ofNat',
      Nat.mod_eq_of_lt (by omega), Char.ofNat_toNat]

theorem plainOctets (plain : ∀ b ∈ utf8 (String.ofList cs), b.toNat < 128) : ∀ c ∈ cs, c.toNat < 128 := by
  intro c member
  refine Nat.lt_of_not_le fun wide => ?_
  obtain ⟨b, among, beyond⟩ := encodeWide wide
  rw [utf8OfList] at plain
  exact absurd (plain b (List.mem_flatMap.mpr ⟨c, member, among⟩)) (Nat.not_lt.mpr beyond)

theorem digitsEach (written : cs.map Char.toLower = digits octets) (member : c ∈ cs) :
    ∃ k, hexValue? c = some k := by
  have lower : c.toLower ∈ digits octets := written ▸ List.mem_map_of_mem member
  obtain ⟨octet, _, one⟩ := List.mem_flatMap.mp lower
  rcases List.mem_cons.mp one with high | low
  · exact ⟨_, digitIff.mpr ⟨Nat.mod_lt _ (by decide), high⟩⟩
  · exact ⟨_, digitIff.mpr ⟨Nat.mod_lt _ (by decide), List.mem_singleton.mp low⟩⟩

theorem digitsPlain (written : cs.map Char.toLower = digits octets) : ∀ c ∈ cs, c.toNat < 128 := by
  intro c member
  obtain ⟨k, value⟩ := digitsEach written member
  refine Nat.lt_of_not_le fun wide => ?_
  simp [valueWide wide] at value

theorem unmarkDigits (written : cs.map Char.toLower = digits octets) : unmark cs = cs := by
  have small : hexValue? 'x' = none := rfl
  have large : hexValue? 'X' = none := rfl
  unfold unmark
  split
  next rest =>
    obtain ⟨k, value⟩ := digitsEach written (c := 'x') (by simp)
    simp [small] at value
  next rest =>
    obtain ⟨k, value⟩ := digitsEach written (c := 'X') (by simp)
    simp [large] at value
  next => rfl

theorem unmarkSplit (cs : List Char) : ∃ mark ∈ ["", "0x", "0X"], cs = mark.toList ++ unmark cs := by
  unfold unmark
  split
  next rest => exact ⟨"0x", by simp, rfl⟩
  next rest => exact ⟨"0X", by simp, rfl⟩
  next => exact ⟨"", by simp, rfl⟩

theorem writesIff : Writes s octets ↔ (unmark s.toList).map Char.toLower = digits octets := by
  constructor
  · rintro ⟨mark, among, cs, whole, written⟩
    have unmarked : unmark s.toList = cs := by
      simp only [List.mem_cons, List.not_mem_nil, or_false] at among
      rcases among with rfl | rfl | rfl
      · exact (congrArg unmark whole).trans (unmarkDigits written)
      · exact congrArg unmark whole
      · exact congrArg unmark whole
    rw [unmarked, written]
  · intro written
    obtain ⟨mark, among, whole⟩ := unmarkSplit s.toList
    exact ⟨mark, among, _, whole, written⟩

theorem decodeIff : decode s = .ok octets ↔ Writes s octets := by
  rw [writesIff, decode]
  generalize unmark s.toList = cs
  constructor
  · intro read
    split at read
    next even =>
      have written : ((utf8 (String.ofList cs)).map (fun b => Char.ofNat b.toNat)).map Char.toLower = digits octets := by
        rw [List.map_map]
        exact (pairsIff 0 even).mp read
      have octet : ∀ n < 256, (Char.ofNat n).toNat = n := by decide +kernel
      have plain : ∀ b ∈ utf8 (String.ofList cs), b.toNat < 128 := by
        intro b member
        have small := digitsPlain written _ (List.mem_map_of_mem member)
        rwa [octet b.toNat b.toNat_lt] at small
      rwa [octetsPlain (plainOctets plain)] at written
    next => contradiction
  · intro written
    have plain := octetsPlain (digitsPlain written)
    have length := congrArg List.length written
    rw [List.length_map, digitsLength] at length
    have even : (utf8 (String.ofList cs)).length % 2 = 0 := by
      rw [← List.length_map (f := fun b : UInt8 => Char.ofNat b.toNat), plain, length]
      exact Nat.mul_mod_right 2 _
    have lowered := congrArg (List.map Char.toLower) plain
    rw [List.map_map, written] at lowered
    rw [if_pos even, pairsIff 0 even]
    exact lowered

theorem writesOnce {other : Bytes} (first : Writes s octets) (second : Writes s other) : octets = other := by
  have read := (decodeIff.mpr first).symm.trans (decodeIff.mpr second)
  simpa using read

end HolderGate.Text.Hex
