import Mathlib.Data.List.TakeDrop
import HolderGate.Json.Codec
import HolderGate.Proofs.AddressText

/-! The scalars of JSON text. What is written for a text or a whole number is read back as it was and to its end,
and can be passed over. -/
namespace HolderGate.Json

variable {α β : Type} {input rest done more : Bytes} {b c : UInt8} {paired : Bool} {n : Nat}

theorem readThen {x : Reader α} {f : α → Reader β} {v : α} (h : x input = .ok (v, rest)) :
    (x >>= f) input = f v rest := by
  simp only [bind, StateT.bind, h, Except.bind]

theorem readFailed {x : Reader α} {f : α → Reader β} {failure : Failure} (h : x input = .error failure) :
    (x >>= f) input = .error failure := by
  simp only [bind, StateT.bind, h, Except.bind]

theorem readMap {x : Reader α} {f : α → β} {v : α} (h : x input = .ok (v, rest)) :
    (f <$> x) input = .ok (f v, rest) := by
  simp only [Functor.map, StateT.map, h, bind, Except.bind, pure, Except.pure]

@[simp] theorem pureRead (v : α) (input : Bytes) : (pure v : Reader α) input = .ok (v, input) := rfl

theorem suchIff {read : Reader α} {convert : α → Option β} {v : β} :
    such read convert input = .ok (v, rest) ↔ ∃ raw, read input = .ok (raw, rest) ∧ convert raw = some v := by
  unfold such
  cases first : read input with
  | error failure =>
    rw [readFailed first]
    simp
  | ok found =>
    obtain ⟨raw, left⟩ := found
    rw [readThen first]
    cases converted : convert raw with
    | none => simp [fail, converted]
    | some value => simp [converted, and_comm]

theorem getRead (input : Bytes) : (get : Reader Bytes) input = .ok (input, input) := rfl

@[simp] theorem advanceRead : advance (b :: rest) = .ok ((), rest) := rfl

theorem peekRead (visible : isSpace b = false) : peek (b :: rest) = .ok (some b, b :: rest) := by
  simp [peek, visible]

inductive Spelled (b : UInt8) : Bytes → Prop where
  | plain (quote : b ≠ 0x22) (backslash : b ≠ 0x5C) (visible : ¬ b < 0x20) : Spelled b [b]
  | escape {c : UInt8} (short : c ≠ 0x75) (means : escapes.lookup c = some b) : Spelled b [0x5C, c]
  | unit {p q r t : UInt8} (value : unitValue? [p, q, r, t] = some b.toNat) (control : b.toNat < 0x20)
      (means : scalar b.toNat = [b]) : Spelled b [0x5C, 0x75, p, q, r, t]

def controlSpelled (b : UInt8) : Bool :=
  match escapeOctet b with
  | [x, c] => x = 0x5C ∧ c ≠ 0x75 ∧ escapes.lookup c = some b
  | [x, y, p, q, r, t] =>
    x = 0x5C ∧ y = 0x75 ∧ unitValue? [p, q, r, t] = some b.toNat ∧ b.toNat < 0x20 ∧ scalar b.toNat = [b]
  | _ => false

theorem controlsSpelled : ∀ n < 0x20, controlSpelled (UInt8.ofNat n) = true := by decide

theorem octetSpelled (b : UInt8) : Spelled b (escapeOctet b) := by
  by_cases control : b < 0x20
  · have spelled := controlsSpelled b.toNat (UInt8.lt_iff_toNat_lt.mp control)
    rw [UInt8.ofNat_toNat, controlSpelled] at spelled
    split at spelled
    next x c written =>
      obtain ⟨rfl, short, means⟩ := of_decide_eq_true spelled
      exact written ▸ .escape short means
    next x y p q r t written =>
      obtain ⟨rfl, rfl, value, control, means⟩ := of_decide_eq_true spelled
      exact written ▸ .unit value control means
    next => contradiction
  · by_cases quote : b = 0x22
    · subst quote
      exact .escape (by decide) (by decide)
    · by_cases backslash : b = 0x5C
      · subst backslash
        exact .escape (by decide) (by decide)
      · have apart : ∀ c : UInt8, c < 0x20 → b ≠ c := fun c low same => control (same ▸ low)
        have written : escapeOctet b = [b] := by
          simp [escapeOctet, quote, backslash, control, apart 0x08 (by decide), apart 0x09 (by decide),
            apart 0x0A (by decide), apart 0x0C (by decide), apart 0x0D (by decide)]
        exact written ▸ .plain quote backslash control

theorem stringPlain (quote : b ≠ 0x22) (backslash : b ≠ 0x5C) (visible : ¬ b < 0x20) :
    stringFrom paired .plain done (b :: rest) = stringFrom paired .plain (b :: done) rest := by
  rw [stringFrom, if_neg quote, if_neg backslash, if_neg visible]

theorem stringEscape (short : c ≠ 0x75) (means : escapes.lookup c = some b) :
    stringFrom paired .plain done (0x5C :: c :: rest) = stringFrom paired .plain (b :: done) rest := by
  rw [stringFrom, if_neg (by decide), if_pos rfl, stringFrom, if_neg short, means]

theorem stringUnit {p q r t : UInt8} (value : unitValue? [p, q, r, t] = some n) (control : n < 0x20) :
    stringFrom paired .plain done (0x5C :: 0x75 :: p :: q :: r :: t :: rest) =
      stringFrom paired .plain ((if paired then scalar n else []).reverse ++ done) rest := by
  have low : isLow n = false := by simp [isLow]; omega
  have high : isHigh n = false := by simp [isHigh]; omega
  have closed : closeUnit paired none n = some (.plain, if paired then scalar n else []) := by
    cases paired <;> simp [closeUnit, low, high]
  simp [stringFrom, value, closed]

theorem spelledRead {text : Bytes} (spelled : Spelled b text) :
    stringFrom true .plain done (text ++ rest) = stringFrom true .plain (b :: done) rest := by
  cases spelled with
  | plain quote backslash visible => exact stringPlain quote backslash visible
  | escape short means => exact stringEscape short means
  | unit value control means => exact (stringUnit value control).trans (by rw [if_pos rfl, means]; rfl)

theorem spelledSkip {text : Bytes} (spelled : Spelled b text) (done rest : Bytes) :
    ∃ more, stringFrom false .plain done (text ++ rest) = stringFrom false .plain more rest := by
  cases spelled with
  | plain quote backslash visible => exact ⟨_, stringPlain quote backslash visible⟩
  | escape short means => exact ⟨_, stringEscape short means⟩
  | unit value control _ => exact ⟨_, stringUnit value control⟩

theorem stringRead (octets done rest : Bytes) :
    stringFrom true .plain done (octets.flatMap escapeOctet ++ 0x22 :: rest) = .ok (done.reverse ++ octets, rest) := by
  induction octets generalizing done with
  | nil => simp [stringFrom]
  | cons b octets ih =>
    rw [List.flatMap_cons, List.append_assoc, spelledRead (octetSpelled b), ih]
    simp

theorem stringSkip (octets done rest : Bytes) :
    ∃ out, stringFrom false .plain done (octets.flatMap escapeOctet ++ 0x22 :: rest) = .ok (out, rest) := by
  induction octets generalizing done with
  | nil => exact ⟨done.reverse, by simp [stringFrom]⟩
  | cons b octets ih =>
    obtain ⟨more, same⟩ := spelledSkip (octetSpelled b) done (octets.flatMap escapeOctet ++ 0x22 :: rest)
    rw [List.flatMap_cons, List.append_assoc, same]
    exact ih more

theorem quotedOpen (s : String) (rest : Bytes) :
    quoted s ++ rest = 0x22 :: ((utf8 s).flatMap escapeOctet ++ 0x22 :: rest) := by
  simp [quoted]

theorem stringBodyRead (s : String) (rest : Bytes) :
    stringBody ((utf8 s).flatMap escapeOctet ++ 0x22 :: rest) = .ok (s, rest) := by
  unfold stringBody
  rw [readThen (stringRead (utf8 s) [] rest)]
  simp only [List.reverse_nil, List.nil_append, textOfUtf8]
  rfl

theorem textRead (s : String) (rest : Bytes) : Json.string (quoted s ++ rest) = .ok (s, rest) := by
  unfold Json.string
  rw [quotedOpen, readThen (peekRead (by decide))]
  exact stringBodyRead s rest

def Ends (rest : Bytes) : Prop := ∀ b ∈ rest.head?, isDigit b = false ∧ b ≠ 0x2E ∧ b ≠ 0x65 ∧ b ≠ 0x45

theorem digitChar (n : Nat) (small : n < 10) : String.utf8EncodeChar n.digitChar = [UInt8.ofNat (0x30 + n)] := by
  have each : ∀ n < 10, String.utf8EncodeChar n.digitChar = [UInt8.ofNat (0x30 + n)] := by decide
  exact each n small

theorem decimalSmall (small : n < 10) : decimal n = [UInt8.ofNat (0x30 + n)] := by
  rw [decimal, Text.Numeral.decimal, Nat.toDigits_of_lt_base small, utf8OfList]
  simp [digitChar n small]

theorem decimalLarge (large : 10 ≤ n) : decimal n = decimal (n / 10) ++ [UInt8.ofNat (0x30 + n % 10)] := by
  rw [decimal, decimal, Text.Numeral.decimal, Text.Numeral.decimal, Nat.toDigits_of_base_le (by decide) large,
    utf8OfList, utf8OfList, List.flatMap_append]
  simp [digitChar (n % 10) (Nat.mod_lt n (by decide))]

theorem digitOctet (n : Nat) (small : n < 10) :
    isDigit (UInt8.ofNat (0x30 + n)) = true ∧ (UInt8.ofNat (0x30 + n)).toNat - 0x30 = n ∧
      (UInt8.ofNat (0x30 + n) = 0x30 → n = 0) := by
  have each : ∀ n < 10, isDigit (UInt8.ofNat (0x30 + n)) = true ∧ (UInt8.ofNat (0x30 + n)).toNat - 0x30 = n ∧
      (UInt8.ofNat (0x30 + n) = 0x30 → n = 0) := by decide
  exact each n small

theorem decimalDigits (n : Nat) : (∀ b ∈ decimal n, isDigit b = true) ∧ digitsValue (decimal n) = n ∧
    ∃ b more, decimal n = b :: more ∧ (b = 0x30 → n = 0 ∧ more = []) := by
  induction n using Nat.strongRecOn with
  | ind n ih =>
    by_cases small : n < 10
    · obtain ⟨digit, value, zero⟩ := digitOctet n small
      rw [decimalSmall small]
      exact ⟨by simpa using digit, by simpa [digitsValue] using value, _, [], rfl, fun same => ⟨zero same, rfl⟩⟩
    · obtain ⟨digits, value, b, more, first, zero⟩ := ih (n / 10) (by omega)
      obtain ⟨digit, last, _⟩ := digitOctet (n % 10) (Nat.mod_lt n (by decide))
      rw [decimalLarge (Nat.not_lt.mp small)]
      refine ⟨?_, ?_, b, _, by rw [first]; rfl, fun same => absurd (zero same).1 (by omega)⟩
      · intro c member
        rcases List.mem_append.mp member with early | late
        · exact digits c early
        · exact List.mem_singleton.mp late ▸ digit
      · rw [digitsValue, List.foldl_append, ← digitsValue, value]
        simp only [List.foldl_cons, List.foldl_nil, last]
        omega

theorem takeDigitsRead {digits : Bytes} (all : ∀ b ∈ digits, isDigit b = true) (ends : Ends rest) :
    takeDigits (digits ++ rest) = .ok (digits, rest) := by
  have stop : rest.takeWhile isDigit = [] ∧ rest.dropWhile isDigit = rest := by
    cases rest with
    | nil => exact ⟨rfl, rfl⟩
    | cons b rest => simp [(ends b rfl).1]
  rw [takeDigits, List.span_eq_takeWhile_dropWhile, List.takeWhile_append_of_pos all,
    List.dropWhile_append_of_pos all, stop.1, stop.2, List.append_nil]

theorem leadAlone {b : UInt8} {more : Bytes} (zero : b = 0x30 → n = 0 ∧ more = []) (ends : Ends rest) :
    (b = 0x30 && (more ++ rest).head?.any isDigit) = false := by
  by_cases same : b = 0x30
  · rw [(zero same).2, List.nil_append]
    cases rest with
    | nil => simp
    | cons c rest => simp [(ends c rfl).1]
  · simp [same]

theorem numberWhole (positive : Bool) (n : Nat) (ends : Ends rest) :
    number positive (decimal n ++ rest) = whole positive n rest := by
  obtain ⟨digits, value, b, more, first, zero⟩ := decimalDigits n
  have digit : isDigit b = true := digits b (by rw [first]; exact List.mem_cons_self)
  have alone := leadAlone zero ends
  have taken := takeDigitsRead digits ends
  rw [first] at taken value ⊢
  simp only [List.cons_append] at taken ⊢
  unfold number
  rw [readThen (getRead _)]
  simp only [digit, alone, Bool.not_true, Bool.false_eq_true, if_false]
  rw [readThen taken, readThen (getRead _), value]
  cases rest with
  | nil => rfl
  | cons c rest =>
    obtain ⟨_, point, lower, upper⟩ := ends c rfl
    simp only [point, lower, upper, or_self, if_false]

theorem digitApart (digit : isDigit b = true) (other : isDigit c = false) : b ≠ c := by
  rintro rfl
  simp [other] at digit

theorem digitVisible (digit : isDigit b = true) : isSpace b = false := by
  simp [isSpace, (digitApart digit rfl : b ≠ 0x20), (digitApart digit rfl : b ≠ 0x0A),
    (digitApart digit rfl : b ≠ 0x09), (digitApart digit rfl : b ≠ 0x0D)]

def Whole (n : Int) : Prop := -0x8000000000000000 ≤ n ∧ n < 0x8000000000000000

instance (n : Int) : Decidable (Whole n) := inferInstanceAs (Decidable (_ ∧ _))

theorem decimalPeek (n : Nat) (rest : Bytes) :
    ∃ b, peek (decimal n ++ rest) = .ok (some b, decimal n ++ rest) ∧ isDigit b = true := by
  obtain ⟨digits, _, b, more, first, _⟩ := decimalDigits n
  have digit : isDigit b = true := digits b (by rw [first]; exact List.mem_cons_self)
  rw [first]
  exact ⟨b, peekRead (digitVisible digit), digit⟩

theorem integerRead {n : Int} (small : Whole n) (ends : Ends rest) : Json.integer (signed n ++ rest) = .ok (n, rest) := by
  obtain ⟨low, high⟩ := small
  have size : UInt64.size = 0x10000000000000000 := rfl
  unfold Json.integer
  by_cases negative : n < 0
  · have read : numeric (signed n ++ rest) = .ok (.negative n.natAbs, rest) := by
      unfold numeric
      rw [signed, if_pos negative, List.cons_append, readThen (peekRead (by decide))]
      show number false (decimal n.natAbs ++ rest) = _
      rw [numberWhole false _ ends, whole, if_neg (by decide), if_neg (by omega), if_pos (by omega), pureRead]
    rw [readThen read]
    simp only [pureRead]
    rw [show -(n.natAbs : Int) = n by omega]
  · have read : numeric (signed n ++ rest) = .ok (.natural n.natAbs, rest) := by
      obtain ⟨b, seen, digit⟩ := decimalPeek n.natAbs rest
      unfold numeric
      rw [signed, if_neg negative, readThen seen]
      simp only [(digitApart digit rfl : b ≠ 0x2D), digit, if_false, if_true]
      rw [numberWhole true _ ends, whole, if_pos rfl, if_pos (by omega), pureRead]
    rw [readThen read]
    simp only
    rw [if_pos (by omega), pureRead, show (n.natAbs : Int) = n by omega]

theorem skipNumberRead (n : Nat) (ends : Ends rest) : skipNumber (decimal n ++ rest) = .ok ((), rest) := by
  obtain ⟨digits, _, b, more, first, zero⟩ := decimalDigits n
  have digit : isDigit b = true := digits b (by rw [first]; exact List.mem_cons_self)
  have alone := leadAlone zero ends
  have taken := takeDigitsRead digits ends
  rw [first] at taken ⊢
  simp only [List.cons_append] at taken ⊢
  unfold skipNumber
  rw [readThen (getRead _)]
  simp only [digit, alone, Bool.not_true, Bool.false_eq_true, if_false]
  rw [readThen taken, readThen (getRead _)]
  cases rest with
  | nil => rfl
  | cons c rest =>
    obtain ⟨_, point, lower, upper⟩ := ends c rfl
    simp only [point, lower, upper, or_self, if_false, pureRead]

theorem skipScalar (start : skipStart input = .ok (none, rest)) : skip input = .ok ((), rest) := by
  unfold skip skipFrom
  rw [readThen start]
  rfl

theorem skipText (s : String) (rest : Bytes) : skip (quoted s ++ rest) = .ok ((), rest) := by
  obtain ⟨out, passed⟩ := stringSkip (utf8 s) [] rest
  refine skipScalar ?_
  unfold skipStart
  rw [quotedOpen, readThen (peekRead (by decide))]
  show (do advance; let _ ← stringFrom false .plain []; pure none : Reader (Option Frame)) _ = _
  rw [readThen advanceRead, readThen passed, pureRead]

theorem skipInteger (n : Int) (ends : Ends rest) : skip (signed n ++ rest) = .ok ((), rest) := by
  refine skipScalar ?_
  unfold skipStart
  by_cases negative : n < 0
  · rw [signed, if_pos negative, List.cons_append, readThen (peekRead (by decide))]
    show (do advance; skipNumber; pure none : Reader (Option Frame)) _ = _
    rw [readThen advanceRead, readThen (skipNumberRead n.natAbs ends), pureRead]
  · obtain ⟨b, seen, digit⟩ := decimalPeek n.natAbs rest
    have letters : b ≠ 0x6E ∧ b ≠ 0x74 ∧ b ≠ 0x66 ∧ b ≠ 0x2D :=
      ⟨digitApart digit rfl, digitApart digit rfl, digitApart digit rfl, digitApart digit rfl⟩
    rw [signed, if_neg negative, readThen seen]
    simp only [letters, digit, if_false, if_true]
    rw [readThen (skipNumberRead n.natAbs ends), pureRead]

end HolderGate.Json
