import HolderGate.Proofs.ListenerTurn
import HolderGate.Proofs.SignedEffects

/-! What account operations announce is what the listener hears, and between two of its turns no message is lost. -/
namespace HolderGate
open Identity Auth Access Sync

namespace Auth.Account
variable {s later : Store} {w session : Wallet} {u : User} {scheme : Scheme} {issuer : Issuer} {supply : Supply}
  {caller : Caller} {p : Proof} {o : Outcome} {n : Option Notification} {α : Type} {granted : Action α} {refused v : α}
  {owner : Option String}

theorem userOfSome (ran : userOf? w s = (.ok (some u), later)) : s.userOf w = .ok u := by
  unfold userOf? Action.read at ran
  cases found : s.userOf w with
  | ok other =>
    simp only [found] at ran
    cases ran
    rfl
  | error e => cases e <;> simp only [found] at ran <;> cases ran

theorem requiredUser (ran : requireUser w s = (.ok u, later)) : s.userOf w = .ok u := by
  unfold requireUser at ran
  obtain ⟨holder, between, found, rest⟩ := Action.boundOk ran
  cases holder with
  | none => cases rest
  | some u =>
    cases rest
    exact userOfSome found

theorem gateEnds (ran : (do if ← check scheme supply caller owner p then granted else pure refused : Action α) s =
    (.ok v, later)) : v = refused ∨ ∃ between, granted between = (.ok v, later) := by
  obtain ⟨good, between, _, rest⟩ := Action.boundOk ran
  cases good with
  | false =>
    cases rest
    exact .inl rfl
  | true => exact .inr ⟨between, rest⟩

theorem createAnnounces (ran : create scheme issuer supply caller p s = (.ok (o, n), later)) :
    (o = .rejected p.wallet ∧ n = none) ∨
      ∃ token, o = .accepted p.wallet (supply 2).id token ∧ n = some ⟨(supply 2).id, .signup, some p.wallet⟩ := by
  unfold create at ran
  obtain ⟨holder, between, found, rest⟩ := Action.boundOk ran
  cases holder with
  | some u => cases rest
  | none =>
    cases gateEnds rest with
    | inl rejected =>
      cases rejected
      exact .inl ⟨rfl, rfl⟩
    | inr granted =>
      obtain ⟨between, rest⟩ := granted
      obtain ⟨_, between, claimed, rest⟩ := Action.boundOk rest
      obtain ⟨token, between, issued, rest⟩ := Action.boundOk rest
      cases rest
      exact .inr ⟨some token, rfl, rfl⟩

theorem addWalletAnnounces (ran : addWallet scheme supply caller session p s = (.ok (o, n), later)) :
    (o = .rejected p.wallet ∧ n = none) ∨ ∃ u, s.userOf session = .ok u ∧ o = .accepted p.wallet u.id none ∧
      n = some ⟨u.id, .addressAdded, some p.wallet⟩ := by
  unfold addWallet at ran
  obtain ⟨u, between, found, rest⟩ := Action.boundOk ran
  have known := requiredUser found
  obtain ⟨holder, between, _, rest⟩ := Action.boundOk rest
  cases other : (holder.map (·.id)).any (· != u.id) with
  | true =>
    simp only [other] at rest
    cases rest
  | false =>
    simp only [other] at rest
    cases gateEnds rest with
    | inl rejected =>
      cases rejected
      exact .inl ⟨rfl, rfl⟩
    | inr granted =>
      obtain ⟨between, rest⟩ := granted
      obtain ⟨_, between, claimed, rest⟩ := Action.boundOk rest
      cases rest
      exact .inr ⟨u, known, rfl, rfl⟩

theorem loginFor (ran : login scheme issuer supply caller p s = (.ok o, later)) :
    o = .rejected p.wallet ∨ ∃ u token, s.userOf p.wallet = .ok u ∧ o = .accepted p.wallet u.id token := by
  unfold login at ran
  obtain ⟨u, between, found, rest⟩ := Action.boundOk ran
  have known := requiredUser found
  cases gateEnds rest with
  | inl rejected => exact .inl rejected
  | inr granted =>
    obtain ⟨between, rest⟩ := granted
    obtain ⟨token, between, issued, rest⟩ := Action.boundOk rest
    cases rest
    exact .inr ⟨u, some token, known, rfl⟩

end Auth.Account

namespace Service
variable {svc : Service} {ms : List Message} {n : Notification}

theorem announcedBus (n? : Option Notification) (other : Service) (bus : other.bus = svc.bus)
    (topic : other.topic = svc.topic) : (other.announceAny n?).bus = (svc.announceAny n?).bus := by
  cases n? with
  | none => exact bus
  | some n => simp [announceAny, announce, publish, bus, topic]

theorem performedAnd {α : Type} {a : Action (α × Option Notification)} {v : α} {later : Service}
    (ran : svc.performAnd a = (.ok v, later)) : ∃ n? store, a svc.store = (.ok (v, n?), store) ∧
      later.bus = (svc.announceAny n?).bus := by
  cases result : a svc.store with
  | mk outcome store =>
    cases outcome with
    | ok pair =>
      obtain ⟨w, n?⟩ := pair
      rw [Gated.performAndOk result] at ran
      cases ran
      exact ⟨n?, store, rfl, announcedBus n? _ rfl rfl⟩
    | error e =>
      rw [Gated.performAndError result] at ran
      cases ran

theorem acceptedAnnounces (op : Gated) (supply : Supply) (caller : Caller) {w : Wallet} {user : String}
    {token : Option String} {later : Service} (ran : op.run svc supply caller = (.ok (.accepted w user token), later)) :
    ∃ u, op.For svc.store supply u ∧ u.id = user ∧ later.bus = (svc.announceAny (op.notification? u)).bus := by
  cases op with
  | create p =>
    obtain ⟨n?, store, done, bus⟩ := performedAnd ran
    cases Account.createAnnounces done with
    | inl rejected => cases rejected.1
    | inr granted =>
      obtain ⟨_, outcome, rfl⟩ := granted
      cases outcome
      exact ⟨_, rfl, rfl, bus⟩
  | login p =>
    simp only [Gated.run, login, perform] at ran
    cases result : Account.login svc.scheme svc.issuer supply caller p svc.store with
    | mk outcome store =>
      rw [result] at ran
      cases ran
      cases Account.loginFor result with
      | inl rejected => cases rejected
      | inr granted =>
        obtain ⟨u, _, known, outcome⟩ := granted
        cases outcome
        exact ⟨u, known, rfl, rfl⟩
  | addWallet session p =>
    obtain ⟨n?, store, done, bus⟩ := performedAnd ran
    cases Account.addWalletAnnounces done with
    | inl rejected => cases rejected.1
    | inr granted =>
      obtain ⟨u, known, outcome, rfl⟩ := granted
      cases outcome
      exact ⟨u, known, rfl, bus⟩

def publishEach (svc : Service) (ms : List Message) : Service := ms.foldl (fun s m => (s.publish m).2) svc

theorem publishAll (ms : List Message) (svc : Service) : svc.publishEach ms =
    { svc with bus := ms.foldl (fun b m => (b.publish m).2) svc.bus } := by
  induction ms generalizing svc with
  | nil => rfl
  | cons m ms ih => exact ih (svc.publish m).2

theorem publishListener (ms : List Message) (b : Bus) :
    (ms.foldl (fun b m => (b.publish m).2) b).listener = b.listener.map (ms.foldl Inbox.deliver) := by
  induction ms generalizing b with
  | nil => simp
  | cons m ms ih =>
    rw [List.foldl_cons, ih]
    simp [Bus.publish, Function.comp_def]

theorem listenEmpties {i : Inbox} (running : svc.bus.listener = some i) : svc.listen.bus.listener = some .empty := by
  unfold listen
  simp only [running]

/-- Between two turns of the listener no more messages come than wait for it. Then all of them are heard in their order,
and each that is a notification on the topic asks for one recount, which is forgotten only where the queue has no room
for it at that time. What account operations announce is such a notification of the user whom they are for. -/
theorem noticesHeard (running : svc.bus.listener = some .empty) (few : ms.length ≤ backlog) :
    (svc.publishEach ms).bus.listener = some ⟨0, ms⟩ ∧
    (∀ q, ({ svc.publishEach ms with queue := q } : Service).listen.queue =
        (turn svc.topic q (Course.quiet ms).steps).2 ∧
      (turn svc.topic q (Course.quiet ms).steps).2.jobs =
        q.jobs ++ (ms.filterMap (wanted svc.topic)).take q.vacancies ∧
      ({ svc.publishEach ms with queue := q } : Service).listen.bus.listener = some .empty) ∧
    (∀ q (course : Course ms), (turn svc.topic q course.steps).1.length = ms.length ∧
      ∀ before meanwhile m after, course.steps = before ++ (meanwhile, m) :: after →
        (turn svc.topic q course.steps).1[before.length]? =
          some (if 0 < (meanwhile (turn svc.topic q before).2).vacancies then (wanted svc.topic m).toList else [])) ∧
    (∀ m job, wanted svc.topic m = some job ↔
      m.topic = svc.topic ∧ ∃ n : Notification, Json.read m.payload = .ok n ∧ job = .recount n.user) ∧
    (∀ op supply caller wallet user token later,
      Gated.run svc supply caller op = (.ok (.accepted wallet user token), later) →
        ∃ u, op.For svc.store supply u ∧ u.id = user ∧ later.bus = (svc.announceAny (op.notification? u)).bus ∧
          ∀ n, op.notification? u = some n → wanted svc.topic (notice svc.topic n) = some (.recount user)) := by
  have waiting : (svc.publishEach ms).bus.listener = some ⟨0, ms⟩ := by
    rw [publishAll]
    simp only [publishListener, running, Option.map_some]
    rw [deliverAll ms .empty (Nat.zero_le _)]
    simp [Inbox.empty, Nat.sub_eq_zero_of_le few]
  have topic : (svc.publishEach ms).topic = svc.topic := by rw [publishAll]
  refine ⟨waiting, ?turn, ?course, fun _ _ => wantedIff, ?announced⟩
  case turn =>
    intro q
    have listening : ({ svc.publishEach ms with queue := q } : Service).bus.listener = some ⟨0, ms⟩ := waiting
    have queue := listenTurn (pendingRunning listening)
    rw [topic] at queue
    refine ⟨queue, ?_, listenEmpties listening⟩
    rw [turnQuiet]
    exact hearAll svc.topic ms q
  case course =>
    intro q course
    constructor
    · rw [turnLength, ← List.length_map Prod.snd, course.heard]
    · intro before meanwhile m after split
      rw [split]
      exact turnNote svc.topic q before after meanwhile m
  case announced =>
    intro op supply caller wallet user token later ran
    obtain ⟨u, whose, same, bus⟩ := acceptedAnnounces op supply caller ran
    refine ⟨u, whose, same, bus, ?_⟩
    intro n announced
    have named : n.user = u.id := by
      cases op with
      | create p => cases announced; rfl
      | login p => cases announced
      | addWallet session p => cases announced; rfl
    rw [noticeWanted, named, same]

def attending : Service := { asked 5 with bus := ⟨some .empty, none⟩ }

def mixed : List Message :=
  [⟨"elsewhere", utf8 "\x7b\"user_id\":\"a\"\x7d"⟩, ⟨"accounts", utf8 "\x7b\"user_id\""⟩,
    ⟨"accounts", utf8 "\x7b\"event\":\"address_added\",\"user_id\":\"b\"\x7d"⟩,
    ⟨"accounts", utf8 "\x7b\"user_id\":\"c\",\"user_name\":7\x7d"⟩]

theorem mixedWanted : mixed.filterMap (wanted "accounts") = [.recount "b", .recount "c"] := by decide

theorem attendingSignup : ∃ token later, (Gated.create stamp).run attending (still "b" 4) .unknown =
    (.ok (.accepted zeroWallet "b" token), later) := by
  have current : attending.store.liveNonce zeroWallet = .ok (some (challenge 5)) := by decide
  have indexed : attending.store.Indexed := show (asked 5).store.Indexed from reachableIndexed (askedReachable 5)
  obtain ⟨e, refused, _⟩ | ⟨_, live, found, ends⟩ :=
    Gated.outcomes indexed (.create stamp) (still "b" 4) .unknown
  · cases refused
  · cases current.symm.trans found
    obtain ⟨unsigned, _⟩ | ⟨_, n, u, _, rfl, ran⟩ := ends
    · exact absurd (stampSigned 5) unsigned
    · exact ⟨_, _, ran⟩

theorem noticesHeardMixed : attending.bus.listener = some .empty ∧ mixed.length ≤ backlog ∧
    (attending.publishEach mixed).listen.queue.jobs = [.recount "b"] ∧
    (∃ token later, (Gated.create stamp).run attending (still "b" 4) .unknown =
        (.ok (.accepted zeroWallet "b" token), later) ∧
      later.bus.listener = some ⟨0, [notice "accounts" ⟨"b", .signup, some zeroWallet⟩]⟩ ∧
      wanted "accounts" (notice "accounts" ⟨"b", .signup, some zeroWallet⟩) = some (.recount "b")) := by
  have running : attending.bus.listener = some .empty := rfl
  have few : mixed.length ≤ backlog := by decide
  obtain ⟨_, heard, _, _, announced⟩ := noticesHeard running few
  refine ⟨running, few, ?_, ?_⟩
  · obtain ⟨queue, jobs, _⟩ := heard attending.queue
    have found : attending.queue = (attending.publishEach mixed).queue := by rw [publishAll]
    rw [← queue, found] at jobs
    refine jobs.trans ?_
    rw [← found]
    show [] ++ (mixed.filterMap (wanted "accounts")).take 1 = _
    rw [mixedWanted]
    rfl
  · obtain ⟨token, later, ran⟩ := attendingSignup
    obtain ⟨u, rfl, same, bus, named⟩ := announced _ _ _ _ _ _ _ ran
    refine ⟨token, later, ran, ?_, named _ rfl⟩
    rw [bus]
    rfl

end Service
end HolderGate
