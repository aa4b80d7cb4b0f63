import HolderGate.Proofs.RelativeChanges
import HolderGate.Proofs.TransferOrder
import HolderGate.Proofs.TransferReport

/-! Transfers of one block, in whatever order they run. What a document is to a block, a transfer of that block leaves as
it was, so each transfer brings every user the same changes and reports the same, wherever it stands. -/
namespace HolderGate.Sync
open Access Chain Identity

def standing (block : UInt64) : Option (Stored Holdings) → Except Json.Fault Fate
  | none => .ok .missing
  | some (.error fault) => .error fault
  | some (.ok h) => .ok (if block < h.block then .stale else .applied)

structure SameStanding (block : UInt64) (s later : Store) : Prop where
  owners : later.owners = s.owners
  documents : ∀ user, standing block (later.holdings.get? user) = standing block (s.holdings.get? user)

def settle (block : UInt64) (ds : List Delta) (document : Option (Stored Holdings)) : Option (Stored Holdings) :=
  if ds.isEmpty then document else receive block ds document

def blocked (s : Store) (user? : Option String) : Bool :=
  (user?.bind s.holdings.get?).any fun document => !document.isOk

/-- What a transfer brings to a user. Nobody gets anything where the sender's document cannot be read. -/
def portion (s : Store) (user : String) (m : Mined) : List Delta :=
  match m.event.endpoints? with
  | none => []
  | some (sender, receiver) =>
    let (given, taken) := changes m.contract m.event
    if blocked s (addressed? s sender given) then []
    else share (addressed? s sender given) (addressed? s receiver taken) user given taken

def drawn (s : Store) (user : String) (t : Token) (m : Mined) : Nat :=
  if gives (userAt? s) user m then movedOf t m.moves else 0

def brought (s : Store) (user : String) (t : Token) (m : Mined) : Nat :=
  if takes (userAt? s) user m then movedOf t m.moves else 0

def noted (r : Report) (user : String) : Except Json.Fault Fate → Except StoreError Report
  | .ok .applied => .ok { r with applied := r.applied ++ [user] }
  | .ok .stale => .ok { r with stale := r.stale ++ [user] }
  | .ok .missing => .ok { r with missing := r.missing ++ [user] }
  | .error fault => .error (.unreadable fault)

variable {s mid later : Store} {m : Mined} {block : UInt64} {ds more given taken : List Delta} {user : String}
  {user? : Option String} {sender receiver endpoint : Address} {h : Holdings} {t : Token} {logs order : List Mined}
  {document : Option (Stored Holdings)} {r : Report}

theorem SameStanding.symm (same : SameStanding block s later) : SameStanding block later s :=
  ⟨same.owners.symm, fun user => (same.documents user).symm⟩

theorem SameStanding.trans (first : SameStanding block s mid) (second : SameStanding block mid later) :
    SameStanding block s later :=
  ⟨second.owners.trans first.owners, fun user => (second.documents user).trans (first.documents user)⟩

theorem standingReceive (document : Option (Stored Holdings)) :
    standing block (receive block ds document) = standing block document := by
  rcases document with _ | _ | h
  · rfl
  · rfl
  · by_cases late : block < h.block
    · simp only [receive, if_pos late]
    · simp only [receive, if_neg late, standing, if_neg (UInt64.lt_irrefl block)]

theorem deliverStanding (block : UInt64) (ds : List Delta) (user? : Option String) (s : Store) :
    SameStanding block s (deliver block ds user? s) := by
  refine ⟨deliverOwners s, fun user => ?_⟩
  rw [deliverDocument]
  split
  next => exact standingReceive _
  next => rfl

theorem SameStanding.userAt (same : SameStanding block s later) (endpoint : Address) :
    userAt? later endpoint = userAt? s endpoint := by
  rw [userAt?, userAt?, Store.owner?, Store.owner?, same.owners]

theorem SameStanding.addressed (same : SameStanding block s later) (endpoint : Address) (ds : List Delta) :
    addressed? later endpoint ds = addressed? s endpoint ds := by
  rw [addressed?, addressed?, same.userAt]

theorem blockedStanding (block : UInt64) (s : Store) (user? : Option String) :
    blocked s user? = user?.any fun user => !(standing block (s.holdings.get? user)).isOk := by
  cases user? with
  | none => rfl
  | some user =>
    unfold blocked
    rcases found : s.holdings.get? user with _ | _ | h <;> simp [found, standing, Except.isOk, Except.toBool]

theorem SameStanding.blocked (same : SameStanding block s later) (user? : Option String) :
    blocked later user? = blocked s user? := by
  simp only [blockedStanding block, same.documents]

theorem blockedUnreadable : blocked s user? = true ↔ Unreadable s user? := by
  cases user? with
  | none => simp [blocked, Unreadable]
  | some user =>
    rcases found : s.holdings.get? user with _ | _ | h <;>
      simp [blocked, Unreadable, found, Except.isOk, Except.toBool]

theorem SameStanding.portion (same : SameStanding block s later) (user : String) (m : Mined) :
    portion later user m = portion s user m := by
  simp only [Sync.portion, same.addressed, same.blocked]

theorem applyAtDeliver (block : UInt64) (endpoint : Address) (ds : List Delta) (r : Report) (s : Store) :
    (applyAt block endpoint ds r s).2 = deliver block ds (addressed? s endpoint ds) s := by
  by_cases empty : ds = []
  · subst empty
    rfl
  · have own : addressed? s endpoint ds = userAt? s endpoint := if_neg (by simpa using empty)
    rw [own]
    rcases applyAtRun block endpoint empty r s with ⟨unreadable, e, failed⟩ | ⟨_, report, done⟩
    · rw [failed, deliverStays unreadable]
    · rw [done]

theorem applyAtNoted (block : UInt64) (endpoint : Address) (ds : List Delta) (r : Report) (s : Store) :
    (applyAt block endpoint ds r s).1 =
      (addressed? s endpoint ds).elim (.ok r) fun user => noted r user (standing block (s.holdings.get? user)) := by
  unfold applyAt addressed?
  by_cases empty : ds.isEmpty
  · simp only [empty, if_true, Option.elim_none]
  · simp only [empty, Bool.false_eq_true, if_false]
    cases userAt? s endpoint with
    | none => rfl
    | some user =>
      simp only [Store.applyChanges, Option.elim_some]
      rcases found : s.holdings.get? user with _ | fault | h
      · rfl
      · rfl
      · by_cases late : block < h.block
        · simp [Store.opened, bind, Except.bind, standing, noted, Report.add, late]
        · simp [Store.opened, bind, Except.bind, standing, noted, Report.add, late]

theorem applyAtReport (same : SameStanding block s later) (endpoint : Address) (ds : List Delta) (r : Report) :
    (applyAt block endpoint ds r later).1 = (applyAt block endpoint ds r s).1 := by
  simp only [applyAtNoted, same.addressed, same.documents]

theorem applyAtOk (block : UInt64) (endpoint : Address) (ds : List Delta) (r : Report) (s : Store) :
    (applyAt block endpoint ds r s).1.isOk = !blocked s (addressed? s endpoint ds) := by
  rw [applyAtNoted, blockedStanding block]
  cases addressed? s endpoint ds with
  | none => rfl
  | some user =>
    simp only [Option.elim_some, Option.any_some, Bool.not_not]
    rcases standing block (s.holdings.get? user) with fault | _ | _ | _ <;> rfl

theorem applyAtStanding (block : UInt64) (endpoint : Address) (ds : List Delta) (r : Report) (s : Store) :
    SameStanding block s (applyAt block endpoint ds r s).2 := by
  rw [applyAtDeliver]
  exact deliverStanding block ds _ s

theorem transferDelivers (ends : m.event.endpoints? = some (sender, receiver))
    (changed : changes m.contract m.event = (given, taken)) :
    (applyTransfer m s).2 = if blocked s (addressed? s sender given) then s
      else deliver m.block taken (addressed? s receiver taken) (deliver m.block given (addressed? s sender given) s) := by
  have passed := applyAtOk m.block sender given .empty s
  have delivered := applyAtDeliver m.block sender given .empty s
  have same := (applyAtStanding m.block sender given .empty s).addressed receiver taken
  unfold applyTransfer
  simp only [ends, changed]
  generalize applyAt m.block sender given .empty s = first at passed delivered same
  obtain ⟨result, between⟩ := first
  simp only at passed delivered same
  cases result with
  | error e =>
    have stopped : blocked s (addressed? s sender given) = true := by simpa [Except.isOk, Except.toBool] using passed.symm
    rw [if_pos stopped, delivered, deliverStays (blockedUnreadable.mp stopped)]
  | ok r =>
    have open' : blocked s (addressed? s sender given) = false := by simpa [Except.isOk, Except.toBool] using passed.symm
    simp only [open', Bool.false_eq_true, if_false]
    rw [applyAtDeliver, same, delivered]

theorem transferStanding (m : Mined) (s : Store) : SameStanding m.block s (applyTransfer m s).2 := by
  unfold applyTransfer
  cases m.event.endpoints? with
  | none => exact ⟨rfl, fun _ => rfl⟩
  | some ends =>
    have first := applyAtStanding m.block ends.1 (changes m.contract m.event).1 .empty s
    simp only
    split
    next r between sent =>
      rw [sent] at first
      exact first.trans (applyAtStanding m.block ends.2 (changes m.contract m.event).2 r between)
    next e between failed =>
      rw [failed] at first
      exact first

theorem transferReport (same : SameStanding m.block s later) : (applyTransfer m later).1 = (applyTransfer m s).1 := by
  unfold applyTransfer
  cases m.event.endpoints? with
  | none => rfl
  | some ends =>
    have report := applyAtReport same ends.1 (changes m.contract m.event).1 .empty
    have between := (applyAtStanding m.block ends.1 (changes m.contract m.event).1 .empty s).symm.trans
      (same.trans (applyAtStanding m.block ends.1 (changes m.contract m.event).1 .empty later))
    simp only
    -- The senders' halves under names: their reports are one, and what they leave differs only in what no report tells.
    generalize applyAt m.block ends.1 (changes m.contract m.event).1 .empty s = here at report between
    generalize applyAt m.block ends.1 (changes m.contract m.event).1 .empty later = there at report between
    obtain ⟨result, here⟩ := here
    obtain ⟨other, there⟩ := there
    have report : other = result := report
    subst report
    cases other with
    | error e => rfl
    | ok r => exact applyAtReport between ends.2 (changes m.contract m.event).2 r

theorem settleAppend (document : Option (Stored Holdings)) :
    settle block (ds ++ more) document = settle block more (settle block ds document) := by
  by_cases none : ds = []
  · simp [settle, none]
  · by_cases last : more = []
    · simp [settle, last]
    · simp [settle, none, last, receiveAppend]

theorem settlePermuted (shuffled : more.Perm ds) (relative : ∀ d ∈ ds, d.change.Relative)
    (fits : ∀ h, document = some (.ok h) → h.block ≤ block → ∀ t,
      lost t ds ≤ (h.balance t).toNat ∧ (h.balance t).toNat + gained t ds ≤ UInt64.size - 1) :
    settle block more document = settle block ds document := by
  unfold settle
  rw [shuffled.isEmpty_eq]
  split
  next => rfl
  next =>
    rcases document with _ | _ | h
    · rfl
    · rfl
    · simp only [receive]
      split
      next => rfl
      next current => rw [Holdings.applyPermuted shuffled relative (fits h rfl (UInt64.not_lt.mp current))]

theorem settleBalance (relative : ∀ d ∈ ds, d.change.Relative) (current : h.block ≤ block)
    (fits : ∀ t, lost t ds ≤ (h.balance t).toNat ∧ (h.balance t).toNat + gained t ds ≤ UInt64.size - 1) :
    ∃ last : Holdings, settle block ds (some (.ok h)) = some (.ok last) ∧
      ∀ t, (last.balance t).toNat + lost t ds = (h.balance t).toNat + gained t ds := by
  have applied : ∀ t, ((h.apply ds).balance t).toNat + lost t ds = (h.balance t).toNat + gained t ds := fun t =>
    Holdings.relativeBalance (relativeOf relative) (fits t).1 (fits t).2
  cases ds with
  | nil => exact ⟨h, rfl, applied⟩
  | cons d rest => exact ⟨{ h.apply (d :: rest) with block }, if_neg (UInt64.not_lt.mpr current), applied⟩

theorem addressedNonempty (addressed : addressed? s endpoint ds = some user) : ds ≠ [] := by
  intro empty
  simp [addressed?, empty] at addressed

theorem exchangeSettle : exchange block (addressed? s sender given) (addressed? s receiver taken) user given taken document =
    settle block (share (addressed? s sender given) (addressed? s receiver taken) user given taken) document := by
  unfold exchange
  split
  next touched =>
    have some' : share (addressed? s sender given) (addressed? s receiver taken) user given taken ≠ [] := by
      unfold share
      cases touched with
      | inl sends => simp [sends, addressedNonempty sends]
      | inr receives => simp [receives, addressedNonempty receives]
    rw [settle, if_neg (by simpa using some')]
  next apart =>
    obtain ⟨sends, receives⟩ := not_or.mp apart
    simp [settle, share, sends, receives]

theorem transferPortion (m : Mined) (s : Store) (user : String) :
    (applyTransfer m s).2.holdings.get? user = settle m.block (portion s user m) (s.holdings.get? user) := by
  cases ends : m.event.endpoints? with
  | none => simp [applyTransfer, portion, ends, settle]
  | some both =>
    obtain ⟨sender, receiver⟩ := both
    obtain ⟨given, taken, changed⟩ : ∃ given taken, changes m.contract m.event = (given, taken) := ⟨_, _, rfl⟩
    simp only [transferDelivers ends changed, portion, ends, changed]
    by_cases stopped : blocked s (addressed? s sender given)
    · simp only [stopped, if_true, settle, List.isEmpty_nil]
    · simp only [stopped, Bool.false_eq_true, if_false]
      rw [deliverBoth, exchangeSettle]

theorem runPortions (one : ∀ m ∈ order, m.block = block) (s : Store) (user : String) :
    (applyAll order s).holdings.get? user = settle block (order.flatMap (portion s user)) (s.holdings.get? user) := by
  induction order generalizing s with
  | nil => rfl
  | cons m rest ih =>
    obtain ⟨own, others⟩ := List.forall_mem_cons.mp one
    -- The rest brings what it would have brought from the start.
    have same : portion (applyTransfer m s).2 user = portion s user :=
      funext ((transferStanding m s).portion user)
    have run := ih others (applyTransfer m s).2
    rw [same, transferPortion, own] at run
    rw [List.flatMap_cons, settleAppend]
    exact run

theorem runStanding (one : ∀ m ∈ order, m.block = block) (s : Store) : SameStanding block s (applyAll order s) := by
  induction order generalizing s with
  | nil => exact ⟨rfl, fun _ => rfl⟩
  | cons m rest ih =>
    obtain ⟨own, others⟩ := List.forall_mem_cons.mp one
    subst own
    exact (transferStanding m s).trans (ih others _)

theorem lostOutgoing (t : Token) (moves : List (Token × Word)) : lost t (outgoing moves) = movedOf t moves := by
  simp [lost, outgoing, movedOf, moved, Change.loss, Function.comp_def]

theorem lostIncoming (t : Token) (moves : List (Token × Word)) : lost t (incoming moves) = 0 := by
  simp [lost, incoming, moved, Change.loss, Function.comp_def]

theorem gainedIncoming (t : Token) (moves : List (Token × Word)) : gained t (incoming moves) = movedOf t moves := by
  simp [gained, incoming, movedOf, moved, Change.gain, Function.comp_def]

theorem gainedOutgoing (t : Token) (moves : List (Token × Word)) : gained t (outgoing moves) = 0 := by
  simp [gained, outgoing, moved, Change.gain, Function.comp_def]

theorem addressedTotal {f : List Delta → Nat} (nothing : f [] = 0) (s : Store) (endpoint : Address) (user : String)
    (ds : List Delta) : f (if addressed? s endpoint ds = some user then ds else []) =
      if userAt? s endpoint = some user then f ds else 0 := by
  by_cases empty : ds = []
  · subst empty
    simp [nothing]
  · have own : addressed? s endpoint ds = userAt? s endpoint := if_neg (by simpa using empty)
    rw [own]
    split
    next => rfl
    next => exact nothing

theorem portionTotals (divisible : ∀ sender receiver id, m.event ≠ .erc721 sender receiver id)
    (ends : m.event.endpoints? = some (sender, receiver))
    (through : blocked s (addressed? s sender (changes m.contract m.event).1) = false) (user : String) (t : Token) :
    lost t (portion s user m) = drawn s user t m ∧ gained t (portion s user m) = brought s user t m := by
  have whole : portion s user m = share (addressed? s sender (outgoing m.moves)) (addressed? s receiver (incoming m.moves))
      user (outgoing m.moves) (incoming m.moves) := by
    rw [changesMoves divisible] at through
    simp only [portion, ends, changesMoves divisible, through, Bool.false_eq_true, if_false]
  have sends : gives (userAt? s) user m = decide (userAt? s sender = some user) := by simp [gives, ends]
  have receives : takes (userAt? s) user m = decide (userAt? s receiver = some user) := by simp [takes, ends]
  have loss := addressedTotal (f := lost t) rfl s
  have gain := addressedTotal (f := gained t) rfl s
  rw [whole, share, lostAppend, gainedAppend, loss, loss, gain, gain, lostOutgoing, lostIncoming, gainedOutgoing,
    gainedIncoming, drawn, brought, sends, receives]
  simp

theorem portionRelative (divisible : ∀ sender receiver id, m.event ≠ .erc721 sender receiver id) (s : Store)
    (user : String) : ∀ d ∈ portion s user m, d.change.Relative := by
  have outward : ∀ d ∈ outgoing m.moves, d.change.Relative := by
    intro d among
    obtain ⟨move, _, rfl⟩ := List.mem_map.mp among
    trivial
  have inward : ∀ d ∈ incoming m.moves, d.change.Relative := by
    intro d among
    obtain ⟨move, _, rfl⟩ := List.mem_map.mp among
    trivial
  intro d among
  unfold portion at among
  rw [changesMoves divisible] at among
  split at among
  next => simp at among
  next =>
    dsimp only at among
    split at among
    next => simp at among
    next =>
      cases List.mem_append.mp among with
      | inl gone =>
        split at gone
        next => exact outward d gone
        next => simp at gone
      | inr come =>
        split at come
        next => exact inward d come
        next => simp at come

theorem portionWithin (divisible : ∀ sender receiver id, m.event ≠ .erc721 sender receiver id) (s : Store)
    (user : String) (t : Token) :
    lost t (portion s user m) ≤ drawn s user t m ∧ gained t (portion s user m) ≤ brought s user t m := by
  cases ends : m.event.endpoints? with
  | none => simp [portion, ends, lost, gained]
  | some both =>
    obtain ⟨sender, receiver⟩ := both
    cases through : blocked s (addressed? s sender (changes m.contract m.event).1) with
    | true => simp [portion, ends, through, lost, gained]
    | false =>
      obtain ⟨loss, gain⟩ := portionTotals divisible ends through user t
      exact ⟨Nat.le_of_eq loss, Nat.le_of_eq gain⟩

theorem readableTotals (readable : Readable s) (divisible : ∀ sender receiver id, m.event ≠ .erc721 sender receiver id)
    (user : String) (t : Token) :
    lost t (portion s user m) = drawn s user t m ∧ gained t (portion s user m) = brought s user t m := by
  cases ends : m.event.endpoints? with
  | none => simp [portion, ends, lost, gained, drawn, brought, gives, takes]
  | some both =>
    obtain ⟨sender, receiver⟩ := both
    refine portionTotals divisible ends (Bool.eq_false_iff.mpr fun stopped => ?_) user t
    exact readable _ (blockedUnreadable.mp stopped)

theorem runTotals (s : Store) (user : String) (t : Token) :
    lost t (order.flatMap (portion s user)) = (order.map fun m => lost t (portion s user m)).sum ∧
      gained t (order.flatMap (portion s user)) = (order.map fun m => gained t (portion s user m)).sum := by
  induction order with
  | nil => exact ⟨rfl, rfl⟩
  | cons m rest ih =>
    rw [List.flatMap_cons, lostAppend, gainedAppend, ih.1, ih.2]
    exact ⟨rfl, rfl⟩

theorem runWithin (divisible : ∀ m ∈ logs, ∀ sender receiver id, m.event ≠ .erc721 sender receiver id) (s : Store)
    (user : String) (t : Token) :
    lost t (logs.flatMap (portion s user)) ≤ (logs.map (drawn s user t)).sum ∧
      gained t (logs.flatMap (portion s user)) ≤ (logs.map (brought s user t)).sum := by
  rw [(runTotals s user t).1, (runTotals s user t).2]
  exact ⟨List.sum_le_sum fun m among => (portionWithin (divisible m among) s user t).1,
    List.sum_le_sum fun m among => (portionWithin (divisible m among) s user t).2⟩

/-- Transfers of one block leave the same documents in any order, and each reports what it would report alone, if no
user has less than all of them take or comes to more than a record counts. -/
theorem oneBlockCommutes (one : ∀ m ∈ logs, m.block = block)
    (divisible : ∀ m ∈ logs, ∀ sender receiver id, m.event ≠ .erc721 sender receiver id)
    (covered : ∀ user h, s.holdings.get? user = some (.ok h) → h.block ≤ block → ∀ t,
      (logs.map (drawn s user t)).sum ≤ (h.balance t).toNat ∧
        (h.balance t).toNat + (logs.map (brought s user t)).sum ≤ UInt64.size - 1)
    (shuffled : order.Perm logs) :
    (applyAll order s).holdings = (applyAll logs s).holdings ∧
      (∀ before m after, order = before ++ m :: after →
        (applyTransfer m (applyAll before s)).1 = (applyTransfer m s).1) ∧
      (Readable s → ∀ user h, s.holdings.get? user = some (.ok h) → h.block ≤ block →
        ∃ last : Holdings, (applyAll order s).holdings.get? user = some (.ok last) ∧ ∀ t,
          (last.balance t).toNat + (logs.map (drawn s user t)).sum =
            (h.balance t).toNat + (logs.map (brought s user t)).sum) := by
  have ones : ∀ m ∈ order, m.block = block := fun m among => one m (shuffled.mem_iff.mp among)
  have relative : ∀ user, ∀ d ∈ logs.flatMap (portion s user), d.change.Relative := by
    intro user d among
    obtain ⟨m, member, own⟩ := List.mem_flatMap.mp among
    exact portionRelative (divisible m member) s user d own
  have fits : ∀ user h, s.holdings.get? user = some (.ok h) → h.block ≤ block → ∀ t,
      lost t (logs.flatMap (portion s user)) ≤ (h.balance t).toNat ∧
        (h.balance t).toNat + gained t (logs.flatMap (portion s user)) ≤ UInt64.size - 1 := by
    intro user h found current t
    obtain ⟨enough, room⟩ := covered user h found current t
    obtain ⟨loss, gain⟩ := runWithin divisible s user t
    omega
  have same : ∀ user, (applyAll order s).holdings.get? user = (applyAll logs s).holdings.get? user := by
    intro user
    rw [runPortions ones, runPortions one]
    exact settlePermuted (shuffled.flatMap_right _) (relative user) (fits user)
  refine ⟨SortedMap.extensional same, ?reports, ?balances⟩
  case reports =>
    intro before m after split
    have first : ∀ m ∈ before, m.block = block := fun m among => ones m (split ▸ List.mem_append_left _ among)
    have own : m.block = block := ones m (split ▸ List.mem_append_right _ List.mem_cons_self)
    exact transferReport (own ▸ runStanding first s)
  case balances =>
    intro readable user h found current
    obtain ⟨last, ran, law⟩ := settleBalance (relative user) current (fits user h found current)
    refine ⟨last, by rw [same, runPortions one, found, ran], fun t => ?_⟩
    have losses : logs.map (fun m => lost t (portion s user m)) = logs.map (drawn s user t) :=
      List.map_congr_left fun m among => (readableTotals readable (divisible m among) user t).1
    have gains : logs.map (fun m => gained t (portion s user m)) = logs.map (brought s user t) :=
      List.map_congr_left fun m among => (readableTotals readable (divisible m among) user t).2
    rw [← losses, ← gains, ← (runTotals s user t).1, ← (runTotals s user t).2]
    exact law t

def traders : Store :=
  ((((Store.empty.own (.ofAddress 1) "a").own (.ofAddress 4) "a").own (.ofAddress 2) "b").putHoldings "a"
    ⟨"a", .ofList [(⟨9, 7⟩, 6)], 40⟩).putHoldings "b" ⟨"b", .ofList [(⟨9, 7⟩, 4)], 50⟩

def lot : Mined := ⟨9, 50, none, .erc1155Batch 1 2 [7, 7] [2, 3]⟩

def trades : List Mined := [lot, ⟨9, 50, none, .erc1155 2 1 7 4⟩, ⟨9, 50, none, .erc1155 4 1 7 1⟩]

theorem movedForeign {moves : List (Token × Word)} (foreign : t ∉ moves.map Prod.fst) : movedOf t moves = 0 := by
  refine List.sum_eq_zero fun amount among => ?_
  obtain ⟨move, member, rfl⟩ := List.mem_map.mp among
  have other : move.1 ≠ t := fun same => foreign (same ▸ List.mem_map_of_mem member)
  exact if_neg other

theorem tradesCovered (user : String) (h : Holdings) (found : traders.holdings.get? user = some (.ok h))
    (t : Token) : (trades.map (drawn traders user t)).sum ≤ (h.balance t).toNat ∧
      (h.balance t).toNat + (trades.map (brought traders user t)).sum ≤ UInt64.size - 1 := by
  by_cases own : t = ⟨9, 7⟩
  · subst own
    simp only [traders, Store.putHoldings, SortedMap.getInsert] at found
    split at found
    next same =>
      subst same
      cases found
      decide
    next =>
      split at found
      next same =>
        subst same
        cases found
        decide
      next => cases found
  · have single : ∀ m ∈ trades, ∀ u ∈ m.moves.map Prod.fst, u = ⟨9, 7⟩ := by decide
    have nothing : ∀ m ∈ trades, movedOf t m.moves = 0 := fun m among =>
      movedForeign fun member => own (single m among t member)
    have small := balanceSmall h t
    have out : (trades.map (drawn traders user t)).sum = 0 := by
      rw [List.map_congr_left (g := fun _ => 0) fun m among => by simp [drawn, nothing m among]]
      rfl
    have into : (trades.map (brought traders user t)).sum = 0 := by
      rw [List.map_congr_left (g := fun _ => 0) fun m among => by simp [brought, nothing m among]]
      rfl
    omega

theorem tradersReadable : Readable traders := by
  refine readablePut (readablePut ?_ _ _) _ _
  intro user? unreadable
  obtain ⟨user, fault, _, found⟩ := unreadable
  cases found

theorem oneBlockCommutesReversed :
    (∀ m ∈ trades, m.block = 50) ∧ Readable traders ∧
      (applyAll trades.reverse traders).holdings = (applyAll trades traders).holdings ∧
      (applyTransfer lot (applyAll trades.tail.reverse traders)).1 = .ok ⟨["a", "b"], [], []⟩ ∧
      ∃ last : Holdings, (applyAll trades.reverse traders).holdings.get? "b" = some (.ok last) ∧
        (last.balance ⟨9, 7⟩).toNat = 5 := by
  have one : ∀ m ∈ trades, m.block = 50 := by decide
  have divisible : ∀ m ∈ trades, ∀ sender receiver id, m.event ≠ .erc721 sender receiver id := by
    simp [trades, lot]
  obtain ⟨same, reports, balances⟩ := oneBlockCommutes one divisible
    (fun user h found _ t => tradesCovered user h found t) (List.reverse_perm trades)
  have alone : (applyTransfer lot traders).1 = .ok ⟨["a", "b"], [], []⟩ := by decide +kernel
  obtain ⟨last, ran, law⟩ := balances tradersReadable "b" ⟨"b", .ofList [(⟨9, 7⟩, 4)], 50⟩ rfl (by decide)
  have out : (trades.map (drawn traders "b" ⟨9, 7⟩)).sum = 4 := by decide +kernel
  have into : (trades.map (brought traders "b" ⟨9, 7⟩)).sum = 5 := by decide +kernel
  have four : (Holdings.balance ⟨"b", .ofList [(⟨9, 7⟩, 4)], 50⟩ ⟨9, 7⟩).toNat = 4 := by decide
  have balance := law ⟨9, 7⟩
  rw [out, into, four] at balance
  exact ⟨one, tradersReadable, same, (reports trades.tail.reverse lot [] rfl).trans alone, last, ran, by omega⟩

end HolderGate.Sync
