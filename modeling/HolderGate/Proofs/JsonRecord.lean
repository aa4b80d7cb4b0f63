import HolderGate.Proofs.JsonText

/-! Records in JSON text. Where the value of every field is read back from what is written for it, so is the
record, and members that are no fields are passed over. -/
namespace HolderGate.Json

/-- A value that is read back from what is written for it, whatever ends it. -/
def Codec.Restores {α : Type} (form : Codec α) (v : α) : Prop :=
  ∀ rest, Ends rest → form.read (form.write v ++ rest) = .ok (v, rest)

def Skips (text : Bytes) : Prop := ∀ rest, Ends rest → skip (text ++ rest) = .ok ((), rest)

variable {α β σ : Type} {αs : List Type} {rest : Bytes} {name : String} {ms : List (String × Bytes)}
  {step : σ → String → Reader σ} {state next last : σ} {fields : Fields αs} {row : Row αs} {slots : Slots αs}

theorem endsComma (rest : Bytes) : Ends (0x2C :: rest) := by
  rintro b ⟨⟩
  decide

theorem endsBrace (rest : Bytes) : Ends (0x7D :: rest) := by
  rintro b ⟨⟩
  decide

theorem endsNothing : Ends [] := by
  rintro b ⟨⟩

theorem restoresText (s : String) : Codec.string.Restores s := fun rest _ => textRead s rest

theorem restoresInteger {n : Int} (small : Whole n) : Codec.integer.Restores n := fun _ ends => integerRead small ends

theorem restoresSuch {form : Codec α} {decode : α → Option β} {encode : β → α} {v : β}
    (back : decode (encode v) = some v) (restores : form.Restores (encode v)) :
    (form.such decode encode).Restores v := by
  intro rest ends
  have read := restores rest ends
  simp only [Codec.such, Json.such]
  rw [readThen read, back]
  rfl

theorem restoresMap {form : Codec α} {decode : α → β} {encode : β → α} {v : β}
    (back : decode (encode v) = v) (restores : form.Restores (encode v)) : (form.map decode encode).Restores v := by
  intro rest ends
  have read := readMap (f := decode) (restores rest ends)
  rw [back] at read
  exact read

def trailing (first : Bool) : List Bytes → Bytes
  | [] => []
  | item :: items => (if first then [] else [0x2C]) ++ item ++ trailing false items

theorem commasTrailing (items : List Bytes) : commas items = trailing true items := by
  have tail : ∀ items : List Bytes, trailing false items = if items = [] then [] else 0x2C :: commas items := by
    intro items
    induction items with
    | nil => rfl
    | cons item items ih =>
      rw [trailing, ih]
      cases items <;> simp [commas]
  cases items with
  | nil => rfl
  | cons item items =>
    rw [trailing, tail]
    cases items <;> simp [commas]

inductive Reads (step : σ → String → Reader σ) : σ → List (String × Bytes) → σ → Prop where
  | nil (state : σ) : Reads step state [] state
  | cons {state next last : σ} {name : String} {text : Bytes} {ms : List (String × Bytes)}
      (one : ∀ rest, Ends rest → step state name (0x3A :: (text ++ rest)) = .ok (next, rest))
      (others : Reads step next ms last) : Reads step state ((name, text) :: ms) last

def following (first : Bool) : List (String × Bytes) → Bytes
  | [] => []
  | (name, text) :: ms => (if first then [] else [0x2C]) ++ (quoted name ++ 0x3A :: text) ++ following false ms

theorem followingTrailing (first : Bool) (ms : List (String × Bytes)) :
    following first ms = trailing first (ms.map (fun m => quoted m.1 ++ 0x3A :: m.2)) := by
  induction ms generalizing first with
  | nil => rfl
  | cons m ms ih =>
    obtain ⟨name, text⟩ := m
    rw [following, ih, List.map_cons, trailing]

theorem commasFollowing (ms : List (String × Bytes)) :
    commas (ms.map (fun m => quoted m.1 ++ 0x3A :: m.2)) = following true ms := by
  rw [commasTrailing, followingTrailing]

theorem followingLength (first : Bool) (ms : List (String × Bytes)) : ms.length ≤ (following first ms).length := by
  induction ms generalizing first with
  | nil => exact Nat.le_refl _
  | cons m ms ih =>
    obtain ⟨name, text⟩ := m
    have rest := ih false
    simp only [following, quoted, List.length_append, List.length_cons]
    omega

theorem memberNameRead (first : Bool) (name : String) (rest : Bytes) :
    memberName first ((if first then [] else [0x2C]) ++ (quoted name ++ rest)) = .ok (some name, rest) := by
  have named : (some <$> stringBody : Reader (Option String)) ((utf8 name).flatMap escapeOctet ++ 0x22 :: rest) =
      .ok (some name, rest) := readMap (stringBodyRead name rest)
  unfold memberName
  rw [quotedOpen]
  cases first with
  | true =>
    rw [if_pos rfl, List.nil_append, readThen (peekRead (by decide))]
    exact named
  | false =>
    rw [if_neg (by decide), List.singleton_append, readThen (peekRead (by decide))]
    have comma : ¬ (0x2C : UInt8) = 0x7D := by decide
    simp only [if_neg comma, Bool.false_eq_true, if_false, if_true]
    rw [readThen advanceRead, readThen (peekRead (by decide))]
    exact named

theorem memberNameEnd (first : Bool) (rest : Bytes) : memberName first (0x7D :: rest) = .ok (none, 0x7D :: rest) := by
  unfold memberName
  rw [readThen (peekRead (by decide))]
  rfl

theorem followingEnds (ms : List (String × Bytes)) (rest : Bytes) :
    Ends (following false ms ++ 0x7D :: rest) := by
  cases ms with
  | nil => exact endsBrace rest
  | cons m ms => exact endsComma _

theorem membersFromRead (reads : Reads step state ms last) (fuel : Nat) (enough : ms.length < fuel) (first : Bool)
    (rest : Bytes) : membersFrom step fuel first state (following first ms ++ 0x7D :: rest) =
      .ok (last, 0x7D :: rest) := by
  induction reads generalizing fuel first with
  | nil state =>
    cases fuel with
    | zero => simp at enough
    | succ fuel =>
      unfold membersFrom
      exact readThen (memberNameEnd first rest)
  | @cons state next last name text ms one _ ih =>
    cases fuel with
    | zero => simp at enough
    | succ fuel =>
      have named := memberNameRead first name (0x3A :: (text ++ (following false ms ++ 0x7D :: rest)))
      have whole : following first ((name, text) :: ms) ++ 0x7D :: rest = (if first then [] else [0x2C]) ++
          (quoted name ++ 0x3A :: (text ++ (following false ms ++ 0x7D :: rest))) := by
        simp [following]
      unfold membersFrom
      rw [whole, readThen named]
      simp only
      rw [readThen (one _ (followingEnds ms rest))]
      exact ih fuel (by simpa using enough) false

theorem membersRead (reads : Reads step state ms last) (rest : Bytes) :
    members step state (following true ms ++ 0x7D :: rest) = .ok (last, 0x7D :: rest) := by
  have length := followingLength true ms
  refine membersFromRead reads _ ?_ true rest
  rw [List.length_append]
  omega

theorem colonRead (rest : Bytes) : colon (0x3A :: rest) = .ok ((), rest) := by
  unfold colon
  rw [readThen (peekRead (by decide))]
  rfl

namespace Fields

def names : {αs : List Type} → Fields αs → List String
  | _, .nil => []
  | _, .cons field fields => field.name :: fields.names

def filled : {αs : List Type} → Fields αs → Row αs → Slots αs
  | _, .nil, _ => ()
  | _, .cons field fields, (v, row) => (if field.omitted v then none else some v, fields.filled row)

def Restores : {αs : List Type} → Fields αs → Row αs → Prop
  | _, .nil, _ => True
  | _, .cons field fields, (v, row) =>
    (if field.omitted v then field.absent = some v else field.value.Restores v) ∧ fields.Restores row

theorem memberUnknown (fields : Fields αs) (slots : Slots αs) (unknown : name ∉ fields.names) :
    fields.member slots name = none := by
  induction fields with
  | nil => rfl
  | cons field fields ih =>
    obtain ⟨differ, others⟩ := List.ne_and_not_mem_of_not_mem_cons unknown
    obtain ⟨slot, slots⟩ := slots
    rw [member, if_neg differ, ih slots others]
    rfl

theorem closeFilled (restores : fields.Restores row) : fields.close (fields.filled row) = some row := by
  induction fields with
  | nil => rfl
  | cons field fields ih =>
    obtain ⟨v, row⟩ := row
    obtain ⟨own, others⟩ := restores
    simp only [filled, close, ih others]
    split at own
    next omitted => simp [omitted, own]
    next written => simp [written]

def Within (fields : Fields αs) (inject : Slots αs → σ) (step : σ → String → Reader σ) : Prop :=
  ∀ slots name read, name ∈ fields.names → fields.member slots name = some read →
    ∀ input next rest, read input = .ok (next, rest) → step (inject slots) name input = .ok (inject next, rest)

theorem withinRest {field : Field α} {inject : Slots (α :: αs) → σ} (fresh : field.name ∉ fields.names)
    (within : (cons field fields).Within inject step) (slot : Option α) :
    fields.Within (fun slots => inject (slot, slots)) step := by
  intro slots name read among found input next rest ran
  have differ : name ≠ field.name := fun same => fresh (same ▸ among)
  have whole : (cons field fields).member ((slot, slots) : Slots (α :: αs)) name = some (do return (slot, ← read)) := by
    rw [member, if_neg differ, found]
    rfl
  exact within (slot, slots) name _ (List.mem_cons_of_mem _ among) whole input _ rest (readThen ran)

theorem fieldsRead (restores : fields.Restores row) (distinct : fields.names.Nodup) {inject : Slots αs → σ}
    (within : fields.Within inject step) :
    Reads step (inject fields.empty) (fields.write row) (inject (fields.filled row)) := by
  induction fields with
  | nil => exact .nil _
  | @cons α αs field fields ih =>
    obtain ⟨v, row⟩ := row
    obtain ⟨own, others⟩ := restores
    obtain ⟨fresh, distinct⟩ := List.nodup_cons.mp distinct
    rw [write, filled, empty]
    by_cases omitted : field.omitted v = true
    · rw [if_pos omitted, if_pos omitted]
      exact ih others distinct (withinRest fresh within none)
    · rw [if_neg omitted] at own
      rw [if_neg omitted, if_neg omitted]
      have later := ih others distinct (withinRest fresh within (some v))
      refine .cons (fun rest ends => ?_) later
      have first : (cons field fields).member ((none, fields.empty) : Slots (α :: αs)) field.name = some _ := if_pos rfl
      refine within (none, fields.empty) field.name _ List.mem_cons_self first _ _ rest ?_
      show (do colon; let v ← field.value.read; pure (some v, fields.empty) : Reader _) _ = _
      rw [readThen (colonRead _), readThen (own rest ends)]
      rfl

theorem ofObjectRead (restores : fields.Restores row) (distinct : fields.names.Nodup) (other : Reader Unit)
    (rest : Bytes) : fields.ofObject other (following true (fields.write row) ++ 0x7D :: rest) =
      .ok (row, 0x7D :: rest) := by
  have within : fields.Within (fun slots => slots)
      (fun slots name => (fields.member slots name).getD (do colon; other; pure slots)) := by
    intro slots name read _ found input next rest ran
    simp only [found, Option.getD_some, ran]
  have reads : Reads _ fields.empty (fields.write row) (fields.filled row) := fieldsRead restores distinct within
  unfold ofObject
  rw [readThen (membersRead reads rest)]
  simp only [closeFilled restores, pureRead]

theorem objectOpen (ms : List (String × Bytes)) (rest : Bytes) :
    object ms ++ rest = 0x7B :: (following true ms ++ 0x7D :: rest) := by
  simp [object, commasFollowing]

theorem closeObjectRead (rest : Bytes) : closeObject (0x7D :: rest) = .ok ((), rest) := by
  unfold closeObject
  rw [readThen (peekRead (by decide))]
  rfl

theorem objectRead {read : Reader β} {v : β} (inside : ∀ rest, read (following true ms ++ 0x7D :: rest) = .ok (v, 0x7D :: rest))
    (rest : Bytes) : (do advance; let v ← read; closeObject; pure v : Reader β) (object ms ++ rest) = .ok (v, rest) := by
  rw [objectOpen, readThen advanceRead, readThen (inside rest), readThen (closeObjectRead rest), pureRead]

theorem codecObject {v : Row αs} (inside : ∀ rest, fields.ofObject skip (following true ms ++ 0x7D :: rest) = .ok (v, 0x7D :: rest))
    (rest : Bytes) : fields.codec.read (object ms ++ rest) = .ok (v, rest) := by
  have start : peek (object ms ++ rest) = .ok (some 0x7B, object ms ++ rest) := peekRead (by decide)
  refine (readThen start).trans ?_
  exact objectRead inside rest

theorem codecRestores (restores : fields.Restores row) (distinct : fields.names.Nodup) : fields.codec.Restores row :=
  fun rest _ => codecObject (ofObjectRead restores distinct skip) rest

theorem codecUnknown (absent : fields.close fields.empty = some row)
    (unknown : ∀ m ∈ ms, m.1 ∉ fields.names ∧ Skips m.2) (rest : Bytes) :
    fields.codec.read (object ms ++ rest) = .ok (row, rest) := by
  refine codecObject (fun rest => ?_) rest
  have passed : Reads (fun slots name => (fields.member slots name).getD (do colon; skip; pure slots)) fields.empty ms
      fields.empty := by
    induction ms with
    | nil => exact .nil _
    | cons m ms ih =>
      obtain ⟨name, text⟩ := m
      obtain ⟨stranger, skips⟩ := unknown _ List.mem_cons_self
      refine .cons (fun rest ends => ?_) (ih fun m later => unknown m (List.mem_cons_of_mem _ later))
      rw [memberUnknown fields fields.empty stranger, Option.getD_none, readThen (colonRead _), readThen (skips rest ends),
        pureRead]
  unfold ofObject
  rw [readThen (membersRead passed rest)]
  simp only [absent, pureRead]

end Fields

theorem parseRead {read : Reader α} {text : Bytes} {v : α} (ran : read text = .ok (v, [])) : parse read text = .ok v := by
  unfold parse
  rw [readThen ran]
  rfl

theorem readRender [Document α] {v : α} (restores : (Document.codec (α := α)).Restores v) :
    (Json.read (render v) : Except Fault α) = .ok v := by
  have whole := restores [] endsNothing
  rw [List.append_nil] at whole
  exact parseRead whole

end HolderGate.Json
