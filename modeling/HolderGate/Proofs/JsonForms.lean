import HolderGate.Identity.Records
import HolderGate.Proofs.InstantText
import HolderGate.Proofs.JsonRecord

/-! The forms in JSON text that the members of records have. A value that is not given is told from one that is by the
quote with which the latter opens, and so is the end of an array from an element. -/
namespace HolderGate
namespace Json

variable {α β : Type} {form : Codec α} {rest : Bytes}

theorem restoresBoolean (b : Bool) : Codec.boolean.Restores b := by
  intro rest _
  cases b <;> rfl

theorem naturalRead {n limit : Nat} (word : n < UInt64.size) (small : n < limit) (ends : Ends rest) :
    natural limit (decimal n ++ rest) = .ok (n, rest) := by
  obtain ⟨b, seen, digit⟩ := decimalPeek n rest
  have read : numeric (decimal n ++ rest) = .ok (.natural n, rest) := by
    unfold numeric
    rw [readThen seen]
    simp only [(digitApart digit rfl : b ≠ 0x2D), digit, if_false, if_true]
    rw [numberWhole true _ ends, whole, if_pos rfl, if_pos word, pureRead]
  unfold natural
  rw [readThen read]
  simp only
  rw [if_pos small, pureRead]

theorem restoresUInt64 (n : UInt64) : Codec.uint64.Restores n := by
  intro rest ends
  have read := naturalRead n.toNat_lt n.toNat_lt ends
  show Json.uint64 (decimal n.toNat ++ rest) = _
  unfold Json.uint64
  rw [readThen read, UInt64.ofNat_toNat, pureRead]

def Codec.Quotes (form : Codec α) (v : α) : Prop := ∃ s, form.write v = quoted s

theorem Codec.Quotes.opens {v : α} (quotes : form.Quotes v) (rest : Bytes) :
    ∃ more, form.write v ++ rest = 0x22 :: more := by
  obtain ⟨s, written⟩ := quotes
  exact ⟨_, written ▸ quotedOpen s rest⟩

theorem restoresOptional {v : Option α} (given : ∀ w ∈ v, form.Quotes w ∧ form.Restores w) :
    form.optional.Restores v := by
  intro rest ends
  cases v with
  | none => rfl
  | some w =>
    obtain ⟨quotes, restores⟩ := given w rfl
    obtain ⟨more, opened⟩ := quotes.opens rest
    have read := readMap (f := some) (restores rest ends)
    show Json.optional form.read (form.write w ++ rest) = _
    rw [opened] at read ⊢
    unfold Json.optional
    rw [readThen (peekRead (by decide))]
    exact read

theorem anotherRead (first : Bool) (rest : Bytes) :
    another first ((if first then [] else [0x2C]) ++ 0x22 :: rest) = .ok (true, 0x22 :: rest) := by
  cases first <;> rfl

theorem trailingEnds (items : List Bytes) (rest : Bytes) : Ends (trailing false items ++ 0x5D :: rest) := by
  cases items with
  | nil =>
    rintro b ⟨⟩
    decide
  | cons item items => exact endsComma _

theorem elementsFromRead {values : List α} (each : ∀ v ∈ values, form.Quotes v ∧ form.Restores v) (fuel : Nat)
    (enough : values.length < fuel) (first : Bool) (rest : Bytes) :
    elementsFrom form.read fuel first (trailing first (values.map form.write) ++ 0x5D :: rest) =
      .ok (values, 0x5D :: rest) := by
  induction values generalizing fuel first with
  | nil =>
    cases fuel with
    | zero => simp at enough
    | succ fuel => rfl
  | cons v values ih =>
    cases fuel with
    | zero => simp at enough
    | succ fuel =>
      obtain ⟨quotes, restores⟩ := each v List.mem_cons_self
      have later := ih (fun w member => each w (List.mem_cons_of_mem _ member)) fuel (by simpa using enough) false
      have head := restores _ (trailingEnds (values.map form.write) rest)
      obtain ⟨more, opened⟩ := quotes.opens (trailing false (values.map form.write) ++ 0x5D :: rest)
      have whole : trailing first ((v :: values).map form.write) ++ 0x5D :: rest =
          (if first then [] else [0x2C]) ++ 0x22 :: more := by
        rw [← opened]
        simp [trailing]
      unfold elementsFrom
      rw [whole, readThen (anotherRead first more), if_pos rfl, ← opened, readThen head, readThen later, pureRead]

theorem trailingLength {values : List α} (each : ∀ v ∈ values, form.Quotes v) (first : Bool) :
    values.length ≤ (trailing first (values.map form.write)).length := by
  induction values generalizing first with
  | nil => exact Nat.le_refl _
  | cons v values ih =>
    have rest := ih (fun w member => each w (List.mem_cons_of_mem _ member)) false
    obtain ⟨s, written⟩ := each v List.mem_cons_self
    simp only [List.map_cons, trailing, written, quoted, List.length_append, List.length_cons]
    omega

theorem restoresArray {values : List α} (each : ∀ v ∈ values, form.Quotes v ∧ form.Restores v) :
    form.array.Restores values := by
  intro rest _
  have length := trailingLength (fun v member => (each v member).1) true
  have inside : elements form.read (trailing true (values.map form.write) ++ 0x5D :: rest) =
      .ok (values, 0x5D :: rest) := by
    refine elementsFromRead each _ ?_ true rest
    rw [List.length_append]
    omega
  have whole : list (values.map form.write) ++ rest =
      0x5B :: (trailing true (values.map form.write) ++ 0x5D :: rest) := by
    simp [list, commasTrailing]
  have closed : closeArray (0x5D :: rest) = .ok ((), rest) := rfl
  show Json.array form.read (list (values.map form.write) ++ rest) = _
  unfold Json.array
  rw [whole, readThen (peekRead (by decide))]
  simp only [if_true]
  rw [readThen advanceRead, readThen inside, readThen closed, pureRead]

theorem tableReads {entries : List (String × α)} (each : ∀ e ∈ entries, form.Restores e.2) (done : List (String × α)) :
    Reads (fun done name => do
      colon
      return (name, ← form.read) :: done) done (entries.map (fun e => (e.1, form.write e.2)))
      (entries.reverse ++ done) := by
  induction entries generalizing done with
  | nil => exact .nil done
  | cons e entries ih =>
    obtain ⟨name, v⟩ := e
    have later := ih (fun e member => each e (List.mem_cons_of_mem _ member)) ((name, v) :: done)
    rw [List.reverse_cons, List.append_assoc]
    refine .cons (fun rest ends => ?_) later
    rw [readThen (colonRead _), readThen (each _ List.mem_cons_self rest ends), pureRead]

theorem restoresTable {entries : List (String × α)} (each : ∀ e ∈ entries, form.Restores e.2) :
    form.table.Restores entries := by
  intro rest _
  have reads := tableReads each []
  show Json.table form.read (object (entries.map (fun e => (e.1, form.write e.2))) ++ rest) = _
  unfold Json.table
  rw [Fields.objectOpen, readThen (peekRead (by decide))]
  simp only [if_true]
  rw [readThen advanceRead, readThen (membersRead reads rest), readThen (Fields.closeObjectRead rest), pureRead]
  simp

theorem quotedPeek (s : String) (rest : Bytes) : peek (quoted s ++ rest) = .ok (some 0x22, quoted s ++ rest) :=
  peekRead (by decide)

theorem suchTextRead {parse : String → Option β} {s : String} {v : β} (back : parse s = some v) (rest : Bytes) :
    Json.such Json.string parse (quoted s ++ rest) = .ok (v, rest) := by
  unfold Json.such
  rw [readThen (textRead s rest), back]
  rfl

theorem restoresNamed {values : List (String × α)} {name : α → String} {v : α}
    (listed : values.lookup (name v) = some v) : (Codec.named values name).Restores v := by
  intro rest _
  exact (readThen (quotedPeek _ rest)).trans (suchTextRead listed rest)

end Json

theorem Identity.Wallet.codecRestores (w : Wallet) : codec.Restores w :=
  Json.restoresSuch (parseText w) (Json.restoresText w.text)

theorem Identity.timestampRestores {t : Time.Timestamp} (civil : t.Civil) : timestampCodec.Restores t :=
  Json.restoresSuch (Time.Rfc3339.readWrite civil) (Json.restoresText _)

theorem Chain.Address.codecRestores (a : Address) : codec.Restores a := by
  intro rest _
  exact (Json.readThen (Json.quotedPeek _ rest)).trans (Json.suchTextRead a.parseText rest)

theorem Chain.Word.codecRestores (w : Word) : codec.Restores w := by
  intro rest _
  exact (Json.readThen (Json.quotedPeek _ rest)).trans (Json.suchTextRead w.parseText rest)

theorem Chain.Token.codecRestores (t : Token) : codec.Restores t :=
  Json.restoresMap rfl (Json.Fields.codecRestores ⟨t.contract.codecRestores, t.id.codecRestores, trivial⟩ (by decide))

end HolderGate
