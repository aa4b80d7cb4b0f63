import HolderGate.Proofs.AddressText
import HolderGate.Proofs.ByteOrder
import HolderGate.Proofs.SortedMap
import HolderGate.Store.Basic

/-! The newest-first index of the documents of wallets. Its keys are in the order of wallets, then of
instants from the latest on, then of identifiers, and a scan for a wallet meets no key of another.
So the first document of a wallet is one that no other document of the wallet precedes. -/
namespace HolderGate

namespace Time.Timestamp

def count (t : Timestamp) : Int := t.seconds * 1000000000 + t.nanos

def Countable (t : Timestamp) : Prop :=
  0 ≤ t.seconds ∧ t.nanos < 1000000000 ∧ t.count < 0x8000000000000000

instance (t : Timestamp) : Decidable t.Countable := inferInstanceAs (Decidable (_ ∧ _ ∧ _))

theorem recencySmall (t : Timestamp) : t.recency < Nat.pow 256 8 := by
  have positive : (0 : Int) < UInt64.size := by decide
  have bound := Int.emod_lt_of_pos (-(t.wordNanos?.getD 0x7FFFFFFFFFFFFFFF) - 1) positive
  have size : (UInt64.size : Int) = (Nat.pow 256 8 : Nat) := by decide
  rw [recency]
  omega

theorem recencyOfCountable {t : Timestamp} (h : t.Countable) :
    (t.recency : Int) = 0xFFFFFFFFFFFFFFFF - t.count := by
  obtain ⟨seconds, nanos, count⟩ := h
  have size : (UInt64.size : Int) = 0x10000000000000000 := by decide
  have word : t.wordNanos? = some t.count := by
    rw [Timestamp.count] at count
    simp only [wordNanos?, Timestamp.count]
    exact if_pos (by omega)
  rw [Timestamp.count] at count ⊢
  rw [recency, word, Option.getD_some, size, Timestamp.count]
  omega

end Time.Timestamp

namespace Store
open Time

theorem laterThanPrevious {own previous : Timestamp} (h : previous.Countable)
    (result : (later own previous).Countable) : (later own previous).recency < previous.recency := by
  have count : previous.count < (later own previous).count := by
    obtain ⟨_, nanos, _⟩ := h
    unfold later at result ⊢
    split
    next =>
      simp only [Timestamp.next, Timestamp.count]
      split <;> simp only <;> omega
    next after =>
      rw [if_neg after] at result
      have after : ¬ own.Le previous := after
      obtain ⟨_, _, _⟩ := result
      simp only [Timestamp.Le] at after
      simp only [Timestamp.count]
      omega
  have before := Timestamp.recencyOfCountable h
  have behind := Timestamp.recencyOfCountable result
  omega

end Store

namespace Newest
open Identity Time

theorem startLength (w : Wallet) : (start w).length = 43 := by
  rw [start, List.length_append, w.textLength, List.length_singleton]

theorem startInjective {v w : Wallet} (h : start v = start w) : v = w :=
  Wallet.same (utf8Injective (List.append_cancel_right h))

theorem compareKey (v w : Wallet) (t u : Timestamp) (i j : String) :
    compare (key v t i) (key w u j) =
      (compare (start v) (start w)).then ((compare t.recency u.recency).then (compare (utf8 i) (utf8 j))) := by
  have starts : (start v).length = (start w).length := by rw [startLength, startLength]
  have instants : (bigEndian 8 t.recency).length = (bigEndian 8 u.recency).length := by
    rw [bigEndianLength, bigEndianLength]
  simp only [key, List.append_assoc]
  rw [compareAppend starts, compareAppend instants, compareBigEndian t.recencySmall u.recencySmall,
    List.compare_cons_cons]
  simp

theorem keyInjective {v w : Wallet} {t u : Timestamp} {i j : String} (h : key v t i = key w u j) :
    v = w ∧ t.recency = u.recency ∧ i = j := by
  have equal : compare (key v t i) (key w u j) = .eq := by rw [h]; simp
  rw [compareKey, Ordering.then_eq_eq, Ordering.then_eq_eq] at equal
  obtain ⟨wallets, instants, identifiers⟩ := equal
  exact ⟨startInjective (Std.LawfulEqCmp.eq_of_compare wallets), Nat.compare_eq_eq.mp instants,
    utf8Injective (Std.LawfulEqCmp.eq_of_compare identifiers)⟩

theorem compareStop (v w : Wallet) (t : Timestamp) (i : String) :
    compare (key v t i) (stop w) = .lt ↔ (compare (start v) (start w)).isLE := by
  have starts : (start v).length = (start w).length := by rw [startLength, startLength]
  have last : List.replicate 20 (0xFF : UInt8) = bigEndian 8 0xFFFFFFFFFFFFFFFF ++ List.replicate 12 0xFF := by
    decide
  have instants : (bigEndian 8 t.recency).length = (bigEndian 8 0xFFFFFFFFFFFFFFFF).length := by
    rw [bigEndianLength, bigEndianLength]
  have bound : t.recency ≤ 0xFFFFFFFFFFFFFFFF := Nat.le_of_lt_succ t.recencySmall
  have order : (compare t.recency 0xFFFFFFFFFFFFFFFF).isLE := Nat.isLE_compare.mpr bound
  have bars : compare bar 0xFF = .lt := by decide
  have rest : compare (bar :: utf8 i) (List.replicate 12 0xFF) = .lt := by
    rw [show List.replicate 12 (0xFF : UInt8) = 0xFF :: List.replicate 11 0xFF from rfl,
      List.compare_cons_cons, bars]
    rfl
  simp only [key, stop, List.append_assoc]
  rw [compareAppend starts, last, compareAppend instants,
    compareBigEndian t.recencySmall (by decide), rest]
  cases compare (start v) (start w) <;> revert order <;> cases compare t.recency 0xFFFFFFFFFFFFFFFF <;> simp

theorem compareStart (v w : Wallet) (t : Timestamp) (i : String) :
    (compare (start w) (key v t i)).isLE ↔ (compare (start w) (start v)).isLE := by
  have starts : (start w).length = (start v).length := by rw [startLength, startLength]
  have padded : start w = start w ++ [] := (List.append_nil _).symm
  rw [padded, key, List.append_assoc, compareAppend starts, ← padded]
  have empty : (compare ([] : Bytes) (bigEndian 8 t.recency ++ bar :: utf8 i)).isLE :=
    List.isLE_compare_nil_left
  cases compare (start w) (start v) <;> simp [empty]

theorem keyWithin {v w : Wallet} {t : Timestamp} {i : String} :
    SortedMap.Within (start w) (stop w) (key v t i) ↔ v = w := by
  rw [SortedMap.Within, compareStart, compareStop]
  constructor
  · rintro ⟨low, high⟩
    exact startInjective (Std.LawfulEqCmp.eq_of_compare (Std.OrientedCmp.isLE_antisymm high low))
  · rintro rfl
    simp

end Newest
end HolderGate
