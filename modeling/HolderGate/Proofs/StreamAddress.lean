import Mathlib.Data.List.TakeDrop
import Mathlib.Data.List.TakeWhile
import HolderGate.Settings
import HolderGate.Proofs.Except
import HolderGate.Proofs.HexText

/-! The address of the stream where only that of single reads is given. It is read as the same address by the scheme of
sockets, exactly where the other one is written with its scheme in front: the letters of the scheme are not looked for,
but as many characters are dropped as it has. -/
namespace HolderGate

namespace Net.Url

structure Names (name : List Char) (scheme : String) : Prop where
  letter : ∃ c ∈ name.head?, c.isAlpha
  allowed : ∀ c ∈ name, isSchemeChar c = true
  lower : name.map Char.toLower = scheme.toList

def isSolid (c : Char) : Bool := !(c ≤ ' ')

def isUnbroken (c : Char) : Bool := c != '\t' && c != '\n' && c != '\r'

def kept (cs : List Char) : List Char := ((cs.reverse.dropWhile (· ≤ ' ')).reverse).filter isUnbroken

def Leads (text scheme : String) : Prop := (text.toList.take scheme.length).map Char.toLower = scheme.toList

instance (text scheme : String) : Decidable (Leads text scheme) := inferInstanceAs (Decidable (_ = _))

variable {cs head tail name rest : List Char} {scheme other text : String} {url : Url} {c : Char}

theorem solidUnbroken (solid : isSolid c = true) : isUnbroken c = true := by
  simp only [isUnbroken, Bool.and_eq_true, bne_iff_ne]
  refine ⟨⟨?_, ?_⟩, ?_⟩ <;> (rintro rfl; simp [isSolid] at solid)

theorem solidAllowed (allowed : isSchemeChar c = true) : isSolid c = true := by
  have each : ∀ n ≤ 32, isSchemeChar (Char.ofNat n) = false := by decide
  refine Bool.not_eq_false _ |>.mp fun edge => ?_
  have order : c ≤ ' ' := by simpa [isSolid] using edge
  have small : c.toNat ≤ 32 := UInt32.le_iff_toNat_le.mp (Char.le_def.mp order)
  have none := each c.toNat small
  rw [Char.ofNat_toNat, allowed] at none
  contradiction

theorem solidLower (c : Char) : isSolid c.toLower = isSolid c := by
  by_cases plain : c.toNat < 128
  · exact beq_iff_eq.mp (Text.Hex.plainEvery (p := fun c => isSolid c.toLower == isSolid c) (by decide) plain)
  · rw [Text.Hex.lowerWide (Nat.not_lt.mp plain)]

theorem Names.length (names : Names name scheme) : name.length = scheme.length := by
  rw [← String.length_toList, ← names.lower, List.length_map]

theorem schemeIff : scheme? cs = some (scheme, rest) ↔ ∃ name, Names name scheme ∧ cs = name ++ ':' :: rest := by
  unfold scheme?
  rw [List.span_eq_takeWhile_dropWhile]
  constructor
  · intro found
    split at found
    next first name behind parted =>
      split at found
      next letter =>
        obtain ⟨before, after⟩ := Prod.mk.inj parted
        cases found
        refine ⟨first :: name, ⟨⟨first, rfl, letter⟩, fun c member => ?_, by simp⟩, ?_⟩
        · exact List.mem_takeWhile_imp (before ▸ member)
        · rw [← before, ← after, List.takeWhile_append_dropWhile]
      next => contradiction
    next => contradiction
  · rintro ⟨name, names, rfl⟩
    obtain ⟨first, starts, letter⟩ := names.letter
    obtain ⟨more, rfl⟩ : ∃ more, name = first :: more := by
      cases name with
      | nil => simp at starts
      | cons d more => exact ⟨more, by simpa using starts⟩
    have colon : isSchemeChar ':' = false := by decide
    rw [List.takeWhile_append_of_pos names.allowed, List.dropWhile_append_of_pos names.allowed,
      List.takeWhile_cons_of_neg (by simp [colon]), List.dropWhile_cons_of_neg (by simp [colon]), List.append_nil]
    have lower : String.ofList ((first :: more).map Char.toLower) = scheme := by
      rw [names.lower, String.ofList_toList]
    simp only [letter, if_true, lower]

theorem parseScheme (parsed : parse text = .ok url) :
    ∃ rest, scheme? (clean text.toList) = some (url.scheme, rest) := by
  unfold parse at parsed
  split at parsed
  next scheme rest found =>
    suffices same : url.scheme = scheme from ⟨rest, same ▸ found⟩
    dsimp only at parsed
    split at parsed
    · obtain ⟨a, _, last⟩ := exceptBindOk.mp parsed
      cases last
      rfl
    · obtain ⟨a, _, last⟩ := exceptBindOk.mp parsed
      cases last
      rfl
    · split at parsed
      · obtain ⟨a, _, last⟩ := exceptBindOk.mp parsed
        cases last
        rfl
      · cases parsed
        rfl
    · cases parsed
      rfl
  next => contradiction

theorem parseRenamed {here there : String} (first : scheme? (clean here.toList) = some (scheme, rest))
    (second : scheme? (clean there.toList) = some (other, rest))
    (kinds : SchemeKind.ofName other = SchemeKind.ofName scheme) :
    parse there = (parse here).map fun url => { url with scheme := other } := by
  simp only [parse, first, second, kinds]
  split
  · cases Authority.read (SchemeKind.ofName scheme) _ _ <;> rfl
  · cases Authority.read (SchemeKind.ofName scheme) _ _ <;> rfl
  · split
    · cases fileHost _ <;> rfl
    · rfl
  · rfl

theorem solidDrop (cs : List Char) : (cs.dropWhile (· ≤ ' ')).filter isSolid = cs.filter isSolid := by
  induction cs with
  | nil => rfl
  | cons c cs ih =>
    by_cases edge : c ≤ ' '
    · rw [List.dropWhile_cons_of_pos (by simp [edge]), ih, List.filter_cons_of_neg (by simp [isSolid, edge])]
    · rw [List.dropWhile_cons_of_neg (by simp [edge])]

theorem solidKept (cs : List Char) : (kept cs).filter isSolid = cs.filter isSolid := by
  have both : ∀ c, (isSolid c && isUnbroken c) = isSolid c := fun c => by
    cases solid : isSolid c with
    | true => exact solidUnbroken solid
    | false => rfl
  rw [kept, List.filter_filter, List.filter_congr fun c _ => both c, List.filter_reverse, solidDrop,
    ← List.filter_reverse, List.reverse_reverse]

theorem solidClean (cs : List Char) : (clean cs).filter isSolid = cs.filter isSolid :=
  (solidKept _).trans (solidDrop cs)

theorem cleanSolid (some : head ≠ []) (solid : ∀ c ∈ head, isSolid c = true) :
    clean (head ++ tail) = head ++ kept tail := by
  have edge : ∀ c ∈ head, ¬ decide (c ≤ ' ') = true := fun c member => by simpa [isSolid] using solid c member
  have whole : head.filter isUnbroken = head :=
    List.filter_eq_self.mpr fun c member => solidUnbroken (solid c member)
  have start : (head ++ tail).dropWhile (· ≤ ' ') = head ++ tail := by
    cases head with
    | nil => contradiction
    | cons c head => exact List.dropWhile_cons_of_neg (edge c List.mem_cons_self)
  have stop : head.reverse.dropWhile (· ≤ ' ') = head.reverse := by
    rw [List.dropWhile_eq_self_iff]
    exact fun _ => edge _ (List.mem_reverse.mp (List.getElem_mem _))
  have trimmed : ((head ++ tail).reverse.dropWhile (· ≤ ' ')).reverse =
      head ++ (tail.reverse.dropWhile (· ≤ ' ')).reverse := by
    rw [List.reverse_append, List.dropWhile_append, stop]
    split
    next none => simp [List.isEmpty_iff.mp none]
    next => simp
  have kept : clean (head ++ tail) = kept ((head ++ tail).dropWhile (· ≤ ' ')) := rfl
  rw [kept, start, Url.kept, trimmed, List.filter_append, whole]
  rfl

theorem Names.solid (names : Names name scheme) : ∀ c ∈ name, isSolid c = true :=
  fun c member => solidAllowed (names.allowed c member)

theorem Names.colonless (names : Names name scheme) : ':' ∉ name := fun member => by
  have colon : isSchemeChar ':' = false := by decide
  simp [names.allowed ':' member] at colon

theorem Names.nonempty (names : Names name scheme) : name ≠ [] := by
  rintro rfl
  obtain ⟨c, starts, _⟩ := names.letter
  simp at starts

theorem Names.spelled (names : Names name scheme) (same : head.map Char.toLower = scheme.toList) :
    head ≠ [] ∧ ∀ c ∈ head, isSolid c = true := by
  have lower : head.map Char.toLower = name.map Char.toLower := same.trans names.lower.symm
  constructor
  · rintro rfl
    exact names.nonempty (List.map_eq_nil_iff.mp lower.symm)
  · intro c member
    obtain ⟨d, among, same⟩ := List.mem_map.mp (lower ▸ List.mem_map_of_mem member)
    rw [← solidLower, ← same, solidLower]
    exact names.solid d among

theorem solidNamed (names : Names name scheme) :
    (name ++ ':' :: rest).filter isSolid = name ++ ':' :: rest.filter isSolid := by
  have whole : name.filter isSolid = name := List.filter_eq_self.mpr names.solid
  rw [List.filter_append, whole, List.filter_cons_of_pos (by decide)]

theorem namedTaken {taken behind more : List Char} (names : Names name scheme) (few : taken.length ≤ name.length)
    (same : taken.filter isSolid ++ ':' :: behind = name ++ ':' :: more) : taken = name := by
  -- The solid characters are the same before and after, so a name that is found has no more of them before it.
  have solid : taken.filter isSolid = name := by
    rcases List.append_eq_append_iff.mp same with ⟨gap, whole, colon⟩ | ⟨gap, whole, _⟩
    · cases gap with
      | nil => rw [whole, List.append_nil]
      | cons c gap =>
        cases colon
        exact absurd (whole ▸ by simp) names.colonless
    · have fewer := List.length_filter_le isSolid taken
      have none : gap.length = 0 := by
        rw [whole, List.length_append] at fewer
        omega
      rw [whole, List.length_eq_zero_iff.mp none, List.append_nil]
  have all : (taken.filter isSolid).length = taken.length := by
    have fewer := List.length_filter_le isSolid taken
    rw [solid] at fewer ⊢
    omega
  rw [← List.filter_eq_self.mpr (List.length_filter_eq_length_iff.mp all), solid]

theorem swappedIff (parsed : parse text = .ok url) (named : Names other.toList other)
    (kinds : SchemeKind.ofName other = SchemeKind.ofName url.scheme) :
    parse (other ++ String.ofList (text.toList.drop url.scheme.length)) = .ok { url with scheme := other } ↔
      Leads text url.scheme := by
  obtain ⟨rest, found⟩ := parseScheme parsed
  obtain ⟨name, names, whole⟩ := schemeIff.mp found
  have parted := List.take_append_drop url.scheme.length text.toList
  generalize taken : text.toList.take url.scheme.length = before at parted
  generalize text.toList.drop url.scheme.length = after at parted
  have written : (other ++ String.ofList after).toList = other.toList ++ after := by simp
  rw [← parted] at whole
  unfold Leads
  rw [taken]
  constructor
  · intro swapped
    obtain ⟨rest', found'⟩ := parseScheme swapped
    obtain ⟨name', names', whole'⟩ := schemeIff.mp found'
    have solid := solidClean (before ++ after)
    have solid' := solidClean (other.toList ++ after)
    rw [written] at whole'
    rw [whole, solidNamed names, List.filter_append] at solid
    rw [whole', solidNamed names', List.filter_append, List.filter_eq_self.mpr named.solid] at solid'
    obtain ⟨_, behind⟩ := List.append_inj solid' (names'.length.trans named.length.symm)
    have few : before.length ≤ name.length := by
      rw [names.length, ← taken]
      exact List.length_take_le _ _
    rw [namedTaken names few (behind ▸ solid.symm), names.lower]
  · intro leads
    obtain ⟨some, solid⟩ := names.spelled leads
    have length : before.length = name.length := by
      rw [← List.length_map Char.toLower, leads, String.length_toList, names.length]
    rw [cleanSolid some solid] at whole
    obtain ⟨_, behind⟩ := List.append_inj whole length
    have second : scheme? (clean (other ++ String.ofList after).toList) = Option.some (other, rest) := by
      rw [written, cleanSolid named.nonempty named.solid, behind]
      exact schemeIff.mpr ⟨other.toList, named, rfl⟩
    rw [parseRenamed found second kinds, parsed]
    rfl

end Net.Url

namespace Settings
open Net.Url

variable {lookup : String → Option String} {settings : Settings} {url : Net.Url} {name text : String}

def socketScheme : String → String
  | "http" | "ws" => "ws"
  | "https" | "wss" => "wss"
  | scheme => scheme

theorem presentNone (unset : ∀ value ∈ lookup name, Text.isBlankText value = true) : present? lookup name = none := by
  unfold present?
  cases found : lookup name with
  | none => rfl
  | some value => simp [unset value found]

theorem nodeAddressOk (accepted : nodeAddress name text = .ok url) :
    Net.Url.parse text = .ok url ∧ url.scheme ∈ schemes := by
  unfold nodeAddress at accepted
  split at accepted
  next => contradiction
  next parsed =>
    split at accepted
    next known =>
      cases accepted
      exact ⟨parsed, known⟩
    next => contradiction

theorem loadUnset (unset : present? lookup "RPC_WS_URL" = none) (loaded : load lookup = .ok settings) :
    settings.nodeUrl = (present? lookup "RPC_URL").getD "http://127.0.0.1:8545" ∧
    ∃ url, nodeAddress "RPC_URL" settings.nodeUrl = .ok url ∧
      settings.streamUrl = streamBeside url settings.nodeUrl := by
  unfold load at loaded
  obtain ⟨url, accepted, loaded⟩ := exceptBindOk.mp loaded
  simp only [unset] at loaded
  cases loaded
  exact ⟨rfl, url, accepted, rfl⟩

theorem besideOther {other : String} (parsed : Net.Url.parse text = .ok url)
    (beside : streamBeside url text = other ++ String.ofList (text.toList.drop url.scheme.length))
    (socket : socketScheme url.scheme = other) (differs : other ≠ url.scheme) (named : Names other.toList other)
    (kinds : Net.SchemeKind.ofName other = Net.SchemeKind.ofName url.scheme) :
    Net.Url.parse (streamBeside url text) = .ok { url with scheme := socketScheme url.scheme } ↔
      socketScheme url.scheme = url.scheme ∨ Leads text url.scheme := by
  rw [beside, socket, swappedIff parsed named kinds]
  simp [differs]

theorem besideSame (parsed : Net.Url.parse text = .ok url) (beside : streamBeside url text = text)
    (same : socketScheme url.scheme = url.scheme) :
    Net.Url.parse (streamBeside url text) = .ok { url with scheme := socketScheme url.scheme } ↔
      socketScheme url.scheme = url.scheme ∨ Leads text url.scheme := by
  simp [beside, same, parsed]

theorem besideIff (parsed : Net.Url.parse text = .ok url) (known : url.scheme ∈ schemes) :
    Net.Url.parse (streamBeside url text) = .ok { url with scheme := socketScheme url.scheme } ↔
      socketScheme url.scheme = url.scheme ∨ Leads text url.scheme := by
  have plain : Names "ws".toList "ws" := ⟨⟨'w', rfl, rfl⟩, List.all_eq_true.mp (by decide), by decide⟩
  have secret : Names "wss".toList "wss" := ⟨⟨'w', rfl, rfl⟩, List.all_eq_true.mp (by decide), by decide⟩
  simp only [schemes, List.mem_cons, List.not_mem_nil, or_false] at known
  rcases known with http | https | ws | wss
  · exact besideOther parsed (by simp [streamBeside, http]) (by simp [socketScheme, http]) (by simp [http]) plain
      (by rw [http]; rfl)
  · exact besideOther parsed (by simp [streamBeside, https]) (by simp [socketScheme, https]) (by simp [https]) secret
      (by rw [https]; rfl)
  · exact besideSame parsed (by simp [streamBeside, ws]) (by simp [socketScheme, ws])
  · exact besideSame parsed (by simp [streamBeside, wss]) (by simp [socketScheme, wss])

/-- Where no address of the stream is given, it is that of single reads by the scheme of sockets, and alike in all else,
exactly if the scheme is one of sockets already or stands at the very front. -/
theorem streamFollows (unset : ∀ value ∈ lookup "RPC_WS_URL", Text.isBlankText value = true)
    (loaded : load lookup = .ok settings) :
    settings.nodeUrl = (present? lookup "RPC_URL").getD "http://127.0.0.1:8545" ∧
    ∃ url, Net.Url.parse settings.nodeUrl = .ok url ∧ url.scheme ∈ schemes ∧
      (Net.Url.parse settings.streamUrl = .ok { url with scheme := socketScheme url.scheme } ↔
        socketScheme url.scheme = url.scheme ∨ Leads settings.nodeUrl url.scheme) := by
  obtain ⟨node, url, accepted, stream⟩ := loadUnset (presentNone unset) loaded
  obtain ⟨parsed, known⟩ := nodeAddressOk accepted
  exact ⟨node, url, parsed, known, stream ▸ besideIff parsed known⟩

def spelled : String → Option String
  | "RPC_URL" => some "HTTPS://reader:pw@Node.org:8443/v1?key=a b#top\t"
  | "RPC_WS_URL" => some " "
  | _ => none

theorem streamFollowsSpelled : (∀ value ∈ spelled "RPC_WS_URL", Text.isBlankText value = true) ∧
    ∃ settings url, load spelled = .ok settings ∧ Net.Url.parse settings.nodeUrl = .ok url ∧ url.scheme = "https" ∧
      settings.streamUrl = "wss://reader:pw@Node.org:8443/v1?key=a b#top\t" ∧
      Net.Url.parse settings.streamUrl = .ok { url with scheme := "wss" } := by
  have unset : ∀ value ∈ spelled "RPC_WS_URL", Text.isBlankText value = true := by decide
  have found : ((load spelled).toOption.map fun s => (s.nodeUrl, s.streamUrl)) =
      some ("HTTPS://reader:pw@Node.org:8443/v1?key=a b#top\t", "wss://reader:pw@Node.org:8443/v1?key=a b#top\t") := by
    decide +kernel
  obtain ⟨settings, read, texts⟩ := Option.map_eq_some_iff.mp found
  obtain ⟨node, stream⟩ := Prod.mk.inj texts
  have loaded := toOptionSome.mp read
  obtain ⟨_, url, parsed, _, follows⟩ := streamFollows unset loaded
  have scheme : url.scheme = "https" := by
    have named : ((Net.Url.parse settings.nodeUrl).toOption.map Net.Url.scheme) = some "https" := by
      rw [node]
      decide +kernel
    simpa [parsed, Except.toOption] using named
  have leads : Leads settings.nodeUrl url.scheme := by
    rw [node, scheme]
    decide +kernel
  have same := follows.mpr (.inr leads)
  rw [scheme] at same
  exact ⟨unset, settings, url, loaded, parsed, scheme, stream, same⟩

def indented : String → Option String
  | "RPC_URL" => some " http://x.org"
  | _ => none

theorem blankLeavesLetter : indented "RPC_WS_URL" = none ∧
    ∃ settings url stream, load indented = .ok settings ∧
      Net.Url.parse settings.nodeUrl = .ok url ∧ url.scheme = "http" ∧
      Net.Url.parse settings.streamUrl = .ok stream ∧ stream.scheme = "wsp" := by
  have found : ((load indented).toOption.map fun s => (s.nodeUrl, s.streamUrl)) =
      some (" http://x.org", "wsp://x.org") := by decide +kernel
  obtain ⟨settings, read, texts⟩ := Option.map_eq_some_iff.mp found
  obtain ⟨node, stream⟩ := Prod.mk.inj texts
  have before : ((Net.Url.parse " http://x.org").toOption.map Net.Url.scheme) = some "http" := by decide +kernel
  have after : ((Net.Url.parse "wsp://x.org").toOption.map Net.Url.scheme) = some "wsp" := by decide +kernel
  obtain ⟨url, parsed, scheme⟩ := Option.map_eq_some_iff.mp before
  obtain ⟨other, parsedOther, schemeOther⟩ := Option.map_eq_some_iff.mp after
  rw [← node] at parsed
  rw [← stream] at parsedOther
  exact ⟨rfl, settings, url, other, toOptionSome.mp read, toOptionSome.mp parsed, scheme,
    toOptionSome.mp parsedOther, schemeOther⟩

end Settings
end HolderGate
