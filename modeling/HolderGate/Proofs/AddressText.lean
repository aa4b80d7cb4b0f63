import HolderGate.Identity.Wallet

/-! The written form of addresses: it has one length, and reading it gives the address back.
So wallets are told apart by their texts exactly as their addresses are. -/
namespace HolderGate

theorem utf8OfList (cs : List Char) : utf8 (String.ofList cs) = cs.flatMap String.utf8EncodeChar := by
  rw [utf8, String.toUTF8_eq_toByteArray, String.toByteArray_ofList, List.utf8Encode,
    List.toList_data_toByteArray]

theorem utf8Narrow {cs : List Char} (narrow : ∀ c ∈ cs, c.utf8Size = 1) :
    (utf8 (String.ofList cs)).length = cs.length := by
  rw [utf8OfList]
  induction cs with
  | nil => rfl
  | cons c cs ih =>
    rw [List.flatMap_cons, List.length_append, String.length_utf8EncodeChar,
      narrow c List.mem_cons_self, ih (fun d member => narrow d (List.mem_cons_of_mem _ member)),
      List.length_cons, Nat.add_comm]

namespace Text.Hex

theorem digitsLength (octets : Bytes) : (digits octets).length = 2 * octets.length := by
  induction octets with
  | nil => rfl
  | cons octet octets ih =>
    have split : digits (octet :: octets) = digit (octet.toNat / 16) :: digit octet.toNat :: digits octets := rfl
    rw [split, List.length_cons, List.length_cons, List.length_cons, ih]
    omega

theorem charValue {k : Nat} (small : k < 16) : value? (Nat.digitChar k) = some k := by
  have each : ∀ k : Fin 16, value? (Nat.digitChar k) = some k.val := by decide
  exact each ⟨k, small⟩

theorem digitValue (n : Nat) : value? (digit n) = some (n % 16) := charValue (Nat.mod_lt _ (by decide))

theorem digitsFrom (octets : Bytes) (n : Nat) :
    (digits octets).foldlM (fun n c => ((value? c).filter (· < 16)).map (16 * n + ·)) n =
      some (octets.foldl (fun n octet => 256 * n + octet.toNat) n) := by
  induction octets generalizing n with
  | nil => rfl
  | cons octet octets ih =>
    have split : digits (octet :: octets) = digit (octet.toNat / 16) :: digit octet.toNat :: digits octets := rfl
    have bound := octet.toNat_lt
    have join : 16 * (16 * n + octet.toNat / 16 % 16) + octet.toNat % 16 = 256 * n + octet.toNat := by omega
    simp only [split, List.foldlM_cons, digitValue, Option.filter_some, Option.map_some, Option.bind_eq_bind,
      Nat.mod_lt _ (show 16 > 0 by decide), decide_true, if_true, Option.bind_some, List.foldl_cons, join, ih]

theorem digitsRead (octets : Bytes) : Numeral.digits? 16 (digits octets) = some (ofBigEndian octets) :=
  digitsFrom octets 0

end Text.Hex

namespace Text

theorem trimPlain {cs : List Char} (plain : ∀ c ∈ cs, isBlank c = false) : trimChars cs = cs := by
  have kept : ∀ cs : List Char, (∀ c ∈ cs, isBlank c = false) → trimLeft cs = cs := by
    intro cs plain
    cases cs with
    | nil => rfl
    | cons c cs => simp [trimLeft, plain c List.mem_cons_self]
  rw [trimChars, kept cs plain, trimRight, kept cs.reverse (by simpa using plain), List.reverse_reverse]

end Text

namespace Chain.Address

theorem textSplit (a : Address) : a.text = String.ofList ('0' :: 'x' :: Text.Hex.digits a.octets) := by
  rw [text, Text.Hex.marked, Text.Hex.encode]
  apply String.toList_inj.mp
  simp

theorem octetsLength (a : Address) : a.octets.length = 20 := bigEndianLength 20 _

theorem textEach {p : Char → Prop} (a : Address) (zero : p '0') (mark : p 'x')
    (digit : ∀ k : Fin 16, p (Nat.digitChar k)) : ∀ c ∈ a.text.toList, p c := by
  rw [textSplit, String.toList_ofList]
  intro c member
  rcases List.mem_cons.mp member with rfl | member
  · exact zero
  · rcases List.mem_cons.mp member with rfl | member
    · exact mark
    · obtain ⟨octet, _, one⟩ := List.mem_flatMap.mp member
      rcases List.mem_cons.mp one with rfl | one
      · exact digit ⟨_, Nat.mod_lt _ (by decide)⟩
      · exact List.mem_singleton.mp one ▸ digit ⟨_, Nat.mod_lt _ (by decide)⟩

theorem textLength (a : Address) : (utf8 a.text).length = 42 := by
  have narrow := a.textEach (p := fun c => c.utf8Size = 1) (by decide) (by decide) (by decide)
  rw [textSplit, String.toList_ofList] at narrow
  rw [textSplit, utf8Narrow narrow, List.length_cons, List.length_cons, Text.Hex.digitsLength, octetsLength]

theorem parseText (a : Address) : parse? a.text = some a := by
  have length : (Text.Hex.digits a.octets).length = 40 := by rw [Text.Hex.digitsLength, octetsLength]
  have small : a.toNat % Nat.pow 256 20 = a.toNat := Nat.mod_eq_of_lt a.isLt
  rw [parse?, textSplit, String.toList_ofList]
  simp only [Text.Hex.unmark, length, if_true, Text.Hex.digitsRead, Option.map_some]
  rw [octets, ofBigEndianBigEndian, small, BitVec.ofNat_toNat, BitVec.setWidth_eq]

end Chain.Address

namespace Identity.Wallet

theorem same {v w : Wallet} (h : v.text = w.text) : v = w := by
  cases v; cases w; cases h; rfl

theorem textLength (w : Wallet) : (utf8 w.text).length = 42 := by
  obtain ⟨a, equal⟩ := w.normal
  rw [← equal, a.textLength]

theorem parseText (w : Wallet) : parse? w.text = some w := by
  obtain ⟨a, written⟩ := w.normal
  have plain : ∀ c ∈ w.text.toList, Text.isBlank c = false :=
    written ▸ a.textEach (by decide) (by decide) (by decide)
  rw [parse?, Text.trim, Text.trimPlain plain, String.ofList_toList, ← written, a.parseText]
  exact congrArg some (same written)

@[simp] theorem addressOfAddress (a : Chain.Address) : (ofAddress a).address = a := by
  simp [address, ofAddress, Chain.Address.parseText]

@[simp] theorem ofAddressAddress (w : Wallet) : ofAddress w.address = w := by
  obtain ⟨a, equal⟩ := w.normal
  apply same
  simp [address, ofAddress, ← equal, Chain.Address.parseText]

end Identity.Wallet
end HolderGate
