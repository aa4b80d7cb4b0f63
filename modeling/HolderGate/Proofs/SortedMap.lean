import HolderGate.SortedMap

/-! Sorted maps by what they answer: a map is the function it looks up, and the least entry of a
range is told by the other entries of the range. -/
namespace HolderGate.SortedMap

variable {κ ν : Type} [Ord κ]

def Within (low high : κ) (key : κ) : Prop := (compare low key).isLE ∧ compare key high = .lt

theorem firstInNone {m : SortedMap κ ν} {low high : κ} :
    m.firstIn low high = none ↔ ∀ e ∈ m.entries, ¬ Within low high e.1 := by
  simp [firstIn, Within, List.find?_eq_none]

theorem placeLength {key : κ} {value : ν} {entries : List (κ × ν)} (absent : lookup key entries = none) :
    (place key value entries).length = entries.length + 1 := by
  induction entries with
  | nil => rfl
  | cons head rest ih =>
    obtain ⟨k, v⟩ := head
    simp only [lookup] at absent
    split at absent
    next => contradiction
    next differ =>
      simp only [place]
      split
      next => rfl
      next same => exact absurd same differ
      next => rw [List.length_cons, ih absent, List.length_cons]

theorem countPlace (p : κ × ν → Bool) {key : κ} {value : ν} {entries : List (κ × ν)}
    (absent : lookup key entries = none) :
    (place key value entries).countP p = entries.countP p + if p (key, value) then 1 else 0 := by
  induction entries with
  | nil => simp [place, List.countP_cons]
  | cons head rest ih =>
    obtain ⟨k, v⟩ := head
    simp only [lookup] at absent
    split at absent
    next => contradiction
    next differ =>
      simp only [place]
      split
      next => rw [List.countP_cons]
      next same => exact absurd same differ
      next =>
        rw [List.countP_cons, ih absent, List.countP_cons]
        omega

theorem countPlaceLe (p : κ × ν → Bool) (key : κ) (value : ν) (entries : List (κ × ν)) :
    (place key value entries).countP p ≤ entries.countP p + if p (key, value) then 1 else 0 := by
  induction entries with
  | nil => simp [place, List.countP_cons]
  | cons head rest ih =>
    obtain ⟨k, v⟩ := head
    simp only [place]
    split <;> simp only [List.countP_cons] at ih ⊢ <;> omega

variable [Std.LawfulEqOrd κ]

theorem findPlace {p : κ × ν → Bool} {key : κ} {value : ν} {entries : List (κ × ν)}
    (outside : ∀ v, ¬ p (key, v)) : (place key value entries).find? p = entries.find? p := by
  induction entries with
  | nil => simp [place, outside]
  | cons head rest ih =>
    obtain ⟨k, v⟩ := head
    simp only [place]
    split
    next => exact List.find?_cons_of_neg (outside value)
    next same =>
      cases Std.LawfulEqCmp.eq_of_compare same
      rw [List.find?_cons_of_neg (outside value), List.find?_cons_of_neg (outside v)]
    next => rw [List.find?_cons, List.find?_cons, ih]

theorem memOfLookup {key : κ} {value : ν} {entries : List (κ × ν)}
    (h : lookup key entries = some value) : (key, value) ∈ entries := by
  induction entries with
  | nil => simp [lookup] at h
  | cons head rest ih =>
    obtain ⟨k, v⟩ := head
    simp only [lookup] at h
    split at h
    next same =>
      cases Std.LawfulEqCmp.eq_of_compare same
      cases Option.some.inj h
      exact List.mem_cons_self
    next => exact List.mem_cons_of_mem _ (ih h)

theorem lookupOfMem {key : κ} {value : ν} {entries : List (κ × ν)}
    (ascending : entries.Pairwise (fun a b => compare a.1 b.1 = .lt)) (h : (key, value) ∈ entries) :
    lookup key entries = some value := by
  induction entries with
  | nil => simp at h
  | cons head rest ih =>
    obtain ⟨k, v⟩ := head
    obtain ⟨below, tail⟩ := List.pairwise_cons.mp ascending
    rcases List.mem_cons.mp h with same | member
    · cases same
      simp [lookup]
    · have differ : compare key k ≠ .eq := by
        intro same
        cases Std.LawfulEqCmp.eq_of_compare same
        simpa using below _ member
      simp only [lookup, if_neg differ]
      exact ih tail member

theorem getSome {m : SortedMap κ ν} {key : κ} {value : ν} :
    m.get? key = some value ↔ (key, value) ∈ m.entries :=
  ⟨memOfLookup, lookupOfMem m.ascending⟩

theorem findLeast {p : κ × ν → Bool} {entries : List (κ × ν)} {e : κ × ν}
    (ascending : entries.Pairwise (fun a b => compare a.1 b.1 = .lt)) (found : entries.find? p = some e) :
    e ∈ entries ∧ p e ∧ ∀ other ∈ entries, p other → (compare e.1 other.1).isLE := by
  obtain ⟨inside, before, after, split, outside⟩ := List.find?_eq_some_iff_append.mp found
  rw [split] at ascending
  refine ⟨by simp [split], inside, fun other member within => ?_⟩
  rw [split] at member
  rcases List.mem_append.mp member with early | late
  · have passed := outside other early
    simp [within] at passed
  · rcases List.mem_cons.mp late with rfl | later
    · simp
    · have less := (List.pairwise_cons.mp (List.pairwise_append.mp ascending).2.1).1 other later
      simp [less]

theorem firstInLeast {m : SortedMap κ ν} {low high : κ} {e : κ × ν}
    (h : m.firstIn low high = some e) : e ∈ m.entries ∧ Within low high e.1 ∧
      ∀ other ∈ m.entries, Within low high other.1 → (compare e.1 other.1).isLE := by
  obtain ⟨member, inside, least⟩ := findLeast m.ascending h
  refine ⟨member, by simpa [Within] using inside, fun other among within => ?_⟩
  exact least other among (by simp [within.1, within.2])

variable [Std.TransOrd κ]

theorem extensional {a b : SortedMap κ ν} (h : ∀ key, a.get? key = b.get? key) : a = b := by
  have same : ∀ e, e ∈ a.entries ↔ e ∈ b.entries := by
    rintro ⟨key, value⟩
    rw [← getSome, ← getSome, h key]
  have distinct : ∀ m : SortedMap κ ν, m.entries.Nodup := fun m =>
    m.ascending.imp (fun less equal => by simp [equal] at less)
  have permuted : a.entries.Perm b.entries :=
    (List.perm_ext_iff_of_nodup (distinct a) (distinct b)).mpr same
  have equal : a.entries = b.entries :=
    permuted.eq_of_pairwise
      (fun _ _ _ _ less more => by
        have swapped := Std.OrientedCmp.gt_iff_lt.mpr more
        rw [less] at swapped
        contradiction)
      a.ascending b.ascending
  cases a; cases b; cases equal; rfl

theorem firstInInsert {m : SortedMap κ ν} {low high key : κ} (value : ν) (outside : ¬ Within low high key) :
    (m.insert key value).firstIn low high = m.firstIn low high :=
  findPlace fun _ => by simpa [Within] using outside

theorem firstInSome {m : SortedMap κ ν} {low high : κ} {e : κ × ν} :
    m.firstIn low high = some e ↔ e ∈ m.entries ∧ Within low high e.1 ∧
      ∀ other ∈ m.entries, Within low high other.1 → (compare e.1 other.1).isLE := by
  refine ⟨firstInLeast, ?_⟩
  rintro ⟨member, within, least⟩
  cases found : m.firstIn low high with
  | none => exact absurd within (firstInNone.mp found e member)
  | some other =>
    obtain ⟨present, inside, before⟩ := firstInLeast found
    have same : e.1 = other.1 := Std.LawfulEqCmp.eq_of_compare
      (Std.OrientedCmp.isLE_antisymm (least other present inside) (before e member within))
    have value : some e.2 = some other.2 :=
      (getSome.mpr member).symm.trans ((congrArg m.get? same).trans (getSome.mpr present))
    exact congrArg some (Prod.ext same.symm (Option.some.inj value).symm)

omit [Std.TransOrd κ] in
theorem keysDistinct (m : SortedMap κ ν) : (m.entries.map Prod.fst).Nodup :=
  List.pairwise_map.mpr (m.ascending.imp fun less equal => by simp [equal] at less)

theorem getOfList [DecidableEq κ] {entries : List (κ × ν)} (distinct : (entries.map Prod.fst).Nodup) {key : κ}
    {value : ν} : (ofList entries).get? key = some value ↔ (key, value) ∈ entries := by
  suffices onto : ∀ m : SortedMap κ ν, (entries.foldl (fun m e => m.insert e.1 e.2) m).get? key = some value ↔
      (key, value) ∈ entries ∨ (key ∉ entries.map Prod.fst ∧ m.get? key = some value) by
    simpa [ofList] using onto empty
  induction entries with
  | nil => simp
  | cons e entries ih =>
    intro m
    obtain ⟨k, v⟩ := e
    obtain ⟨fresh, others⟩ := List.nodup_cons.mp distinct
    rw [List.foldl_cons, ih others, getInsert]
    by_cases same : key = k
    · subst same
      have fresh : key ∉ entries.map Prod.fst := fresh
      have absent : (key, value) ∉ entries := fun member => fresh (List.mem_map_of_mem member)
      simp only [absent, fresh, false_or, if_true, not_false_eq_true, true_and, Option.some.injEq, List.mem_cons,
        Prod.mk.injEq, or_false, List.map_cons, not_true_eq_false, false_and]
      exact eq_comm
    · simp [same]

theorem lastOfList [DecidableEq κ] (entries : List (κ × ν)) (key : κ) :
    (ofList entries).get? key = ((entries.filter (·.1 = key)).map Prod.snd).getLast? := by
  suffices onto : ∀ m : SortedMap κ ν, (entries.foldl (fun m e => m.insert e.1 e.2) m).get? key =
      (((entries.filter (·.1 = key)).map Prod.snd).getLast?).or (m.get? key) by
    simpa [ofList] using onto empty
  induction entries with
  | nil => exact fun m => rfl
  | cons e entries ih =>
    intro m
    rw [List.foldl_cons, ih, getInsert]
    by_cases same : e.1 = key
    · simp [same, List.getLast?_cons]
    · simp [same, Ne.symm same]

theorem ofListEntries [DecidableEq κ] (m : SortedMap κ ν) : ofList m.entries = m := by
  refine extensional fun key => Option.ext fun value => ?_
  rw [getOfList m.keysDistinct, getSome]

omit [Std.TransOrd κ] in
theorem memKeys {m : SortedMap κ ν} {key : κ} : key ∈ m.keys ↔ ∃ value, m.get? key = some value := by
  simp [keys, getSome]

theorem keysOfList [DecidableEq κ] {entries : List (κ × ν)} {key : κ} :
    key ∈ (ofList entries).keys ↔ key ∈ entries.map Prod.fst := by
  rw [memKeys, lastOfList, ← Option.isSome_iff_exists, List.getLast?_isSome]
  simp

end HolderGate.SortedMap
