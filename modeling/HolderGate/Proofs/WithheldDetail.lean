import HolderGate.Http.Endpoint
import HolderGate.Proofs.JsonText
import HolderGate.Proofs.SessionCheck
import HolderGate.Proofs.SignedEffects

/-! What responses tell of trouble inside. They tell that there was some, in the same octets whatever it was. Only
where a session is due and the key to check it with cannot be read, the response says why. -/
namespace HolderGate

theorem Json.quotedThen {s t : String} {rest more : Bytes} (same : quoted s ++ rest = quoted t ++ more) :
    s = t ∧ rest = more := by
  have read := textRead s rest
  rw [same, textRead t more] at read
  cases read
  exact ⟨rfl, rfl⟩

def StoreError.detail? : StoreError → Option String
  | absent _ | taken _ => none
  | e => some e.message

def Auth.Denial.detail? : Denial → Option String
  | internal detail => some detail
  | _ => none

def Auth.AccountError.detail? : AccountError → Option String
  | storage e => e.detail?
  | session d => d.detail?
  | _ => none

namespace Http
open Identity Auth

/-- What keeps a request from being answered as it asks: a bearer who is turned away, one who cannot be told whether
the session is valid, or an error of the store or of an account. -/
inductive Trouble where
  | turnedAway (d : Denial)
  | unconfirmed (d : Denial)
  | store (e : StoreError)
  | account (e : AccountError)
  deriving DecidableEq, Repr

namespace Trouble

def detail? : Trouble → Option String
  | turnedAway d | unconfirmed d => d.detail?
  | store e => e.detail?
  | account e => e.detail?

def told : Trouble → Option String
  | turnedAway d => d.detail?
  | _ => none

def response : Trouble → Response
  | turnedAway d => denied d
  | unconfirmed (.internal detail) => (Failure.internal detail).response
  | unconfirmed _ => .json 200 [("valid", Json.flag false)]
  | store e => (Failure.ofStore e).response
  | account e => (Failure.ofAccount e).response

end Trouble

def withheld : Response := (Failure.internal "").response

variable {x y : Trouble} {detail other : String}

theorem deniedCommas (d : Denial) : denied d = ⟨d.status, .json (0x7B :: (Json.quoted "error" ++ 0x3A ::
    (Json.quoted d.message ++ 0x2C :: (Json.quoted "error_code" ++ 0x3A :: Json.quoted d.code ++ [0x7D]))))⟩ := by
  simp [denied, Response.json, Json.object, Json.commas]

theorem failureCommas (f : Failure) : f.response = ⟨f.status, .json (0x7B :: (Json.quoted "error" ++ 0x3A ::
    (Json.quoted f.message ++ [0x7D])))⟩ := by
  simp [Failure.response, Response.json, Json.object, Json.commas]

theorem deniedDetail (same : denied (.internal detail) = denied (.internal other)) : detail = other := by
  rw [deniedCommas, deniedCommas] at same
  injection same with _ body
  injection body with octets
  obtain ⟨_, rest⟩ := Json.quotedThen (List.tail_eq_of_cons_eq octets)
  obtain ⟨message, _⟩ := Json.quotedThen (List.tail_eq_of_cons_eq rest)
  exact (String.append_right_inj "Internal authentication error: ").mp message

theorem deniedApart (d : Denial) (f : Failure) : denied d ≠ f.response := by
  intro same
  rw [deniedCommas, failureCommas] at same
  injection same with _ body
  injection body with octets
  obtain ⟨_, rest⟩ := Json.quotedThen (List.tail_eq_of_cons_eq octets)
  obtain ⟨_, code⟩ := Json.quotedThen (List.tail_eq_of_cons_eq rest)
  injection code with first
  contradiction

theorem toldDetail (shown : x.told = some detail) : x = .turnedAway (.internal detail) := by
  cases x with
  | turnedAway d => cases d <;> simp_all [Trouble.told, Denial.detail?]
  | _ => contradiction

theorem storeWithheld {e : StoreError} (own : e.detail?.isSome) : (Failure.ofStore e).response = withheld := by
  cases e with
  | absent | taken => contradiction
  | unreadable | device => rfl

theorem denialWithheld {d : Denial} (own : d.detail?.isSome) : (Failure.ofDenial d).response = withheld := by
  cases d with
  | internal detail => rfl
  | _ => contradiction

theorem accountWithheld {e : AccountError} (own : e.detail?.isSome) : (Failure.ofAccount e).response = withheld := by
  cases e with
  | storage e => exact storeWithheld own
  | session d => exact denialWithheld own
  | _ => contradiction

theorem responseWithheld (own : x.detail?.isSome) (silent : x.told = none) : x.response = withheld := by
  cases x with
  | turnedAway d =>
    have lost : (none : Option String).isSome := silent ▸ own
    contradiction
  | unconfirmed d =>
    cases d with
    | internal detail => rfl
    | _ => contradiction
  | store e => exact storeWithheld own
  | account e => exact accountWithheld own

theorem responseAlike (own : x.detail?.isSome) (others : y.detail?.isSome) :
    x.response = y.response ↔ x.told = y.told := by
  cases left : x.told with
  | none =>
    rw [responseWithheld own left]
    cases right : y.told with
    | none => simp [responseWithheld others right]
    | some other =>
      cases toldDetail right
      exact iff_of_false (deniedApart _ _).symm (by simp)
  | some detail =>
    cases toldDetail left
    cases right : y.told with
    | none =>
      rw [responseWithheld others right]
      exact iff_of_false (deniedApart _ _) (by simp)
    | some other =>
      cases toldDetail right
      constructor
      · exact fun same => congrArg some (deniedDetail same)
      · rintro ⟨⟩
        rfl

theorem storeStatus (e : StoreError) : (Failure.ofStore e).status = 500 ↔ e.detail?.isSome := by
  cases e <;> simp [Failure.ofStore, Failure.notFound, Failure.conflict, Failure.internal, StoreError.detail?]

theorem denialStatus (d : Denial) : d.status = 500 ↔ d.detail?.isSome := by
  cases d <;> simp [Denial.status, Denial.detail?]

theorem accountStatus (e : AccountError) : (Failure.ofAccount e).status = 500 ↔ e.detail?.isSome := by
  cases e with
  | storage e => exact storeStatus e
  | session d => cases d <;> simp [Failure.ofAccount, Failure.ofDenial, Failure.internal, Denial.status, AccountError.detail?,
      Denial.detail?]
  | _ => simp [Failure.ofAccount, Failure.badRequest, Failure.notFound, Failure.conflict, AccountError.detail?]

theorem responseStatus (x : Trouble) : x.response.status = 500 ↔ x.detail?.isSome := by
  cases x with
  | turnedAway d => exact denialStatus d
  | unconfirmed d => cases d <;> simp [Trouble.response, Trouble.detail?, Denial.detail?, Response.json, Failure.response,
      Failure.internal]
  | store e => exact storeStatus e
  | account e => exact accountStatus e

def raised? {ε α : Type} : Except ε α → Option ε
  | .ok _ => none
  | .error e => some e

def admitted {α : Type} (session : Except Denial α) (within : α → Option Trouble) : Option Trouble :=
  match session with
  | .error d => some (.turnedAway d)
  | .ok v => within v

def Endpoint.trouble? (e : Endpoint) (svc : Service) (supply : Supply) (r : Request) : Option Trouble :=
  match e with
  | unlocked => (parameter r "user_id").toOption.bind fun user =>
      (raised? (do let _ ← svc.store.user user; svc.store.featuresOf user)).map .store
  | features => (raised? svc.store.allFeatures).map .store
  | preflight => (addressed r).toOption.bind fun w => (raised? (svc.preflight supply w).1).map .account
  | create => (challenge r).toOption.bind fun p => (raised? (svc.create supply r.headers.caller p).1).map .account
  | login => (challenge r).toOption.bind fun p => (raised? (svc.login supply r.headers.caller p).1).map .account
  | update => admitted (session svc (supply 0).now r) fun w => (document Profile r).toOption.bind fun p =>
      (raised? (svc.update (supply.after 1) w p.username p.bio).1).map .account
  | addWallet => admitted (session svc (supply 0).now r) fun w => (challenge r).toOption.bind fun p =>
      (raised? (svc.addWallet (supply.after 1) r.headers.caller w p).1).map .account
  | view => (addressed r).toOption.bind fun w => (raised? (svc.view w)).map .account
  | validity => (raised? (session svc (supply 0).now r)).map .unconfirmed
  | notify | health | liveness => none

inductive Answers : Option Trouble → Response → Prop where
  | trouble (x : Trouble) : Answers (some x) x.response
  | without {response : Response} (fine : response.status ≠ 500) : Answers none response

variable {svc : Service} {supply : Supply} {r : Request}

theorem answersStatus {t : Option Trouble} {response : Response} (answers : Answers t response) :
    response.status = 500 ↔ ∃ x, t = some x ∧ x.detail?.isSome := by
  cases answers with
  | trouble x => simp [responseStatus]
  | without fine => simp [fine]

theorem answersSuccess (members : List (String × Bytes)) : Answers none (.json 200 members) :=
  .without (show 200 ≠ 500 by decide)

def Blames {α : Type} (e : Extract α) : Prop := ∀ response, e = .error response → response.status ≠ 500

section

variable {α β : Type}

theorem blamesThen {e : Extract α} {f : α → Extract β} (first : Blames e) (rest : ∀ v, Blames (f v)) :
    Blames (e >>= f) := by
  cases e with
  | ok v => exact rest v
  | error response =>
    rintro _ ⟨⟩
    exact first response rfl

theorem blamesParameter (r : Request) (name : String) : Blames (parameter r name) := by
  intro response failed
  unfold parameter at failed
  split at failed <;> cases failed
  exact show 400 ≠ 500 by decide

theorem blamesDocument [Json.Document α] (r : Request) : Blames (document α r) := by
  intro response failed
  unfold document at failed
  split at failed
  next =>
    split at failed <;> cases failed
    next => exact show 422 ≠ 500 by decide
    next => exact show 400 ≠ 500 by decide
  next =>
    cases failed
    exact show 415 ≠ 500 by decide

theorem blamesWallet (text : String) : Blames (wallet text) := by
  intro response failed
  unfold wallet at failed
  split at failed <;> cases failed
  exact show 400 ≠ 500 by decide

theorem blamesAddressed (r : Request) : Blames (addressed r) := blamesThen (blamesParameter r "address") blamesWallet

theorem blamesChallenge (r : Request) : Blames (challenge r) := by
  refine blamesThen (blamesDocument r) fun c => blamesThen (blamesWallet c.address) fun w => ?_
  intro response failed
  cases failed

theorem extractingAnswers {e : Extract α} {t : α → Option Trouble} {k : α → Response × Service} (blames : Blames e)
    (rest : ∀ v, Answers (t v) (k v).1) : Answers (e.toOption.bind t) (extracting svc e k).1 := by
  cases e with
  | ok v => exact rest v
  | error response => exact .without (blames response rfl)

theorem admittedAnswers {now : Time.Timestamp} {t : Wallet → Option Trouble} {k : Wallet → Response × Service}
    (rest : ∀ w, Answers (t w) (k w).1) :
    Answers (admitted (session svc now r) t) (extracting svc (authenticated svc now r) k).1 := by
  unfold authenticated
  cases session svc now r with
  | ok w => exact rest w
  | error d => exact .trouble (.turnedAway d)

theorem answeringAnswers (result : Except AccountError α × Service) (members : α → List (String × Bytes)) :
    Answers ((raised? result.1).map .account) (answering result members).1 := by
  obtain ⟨result, later⟩ := result
  cases result with
  | ok v => exact answersSuccess (members v)
  | error e => exact .trouble (.account e)

end

theorem unlockedAnswers (svc : Service) (supply : Supply) (r : Request) :
    Answers (Endpoint.unlocked.trouble? svc supply r) (unlocked svc r).1 := by
  refine extractingAnswers (blamesParameter r _) fun user => ?_
  dsimp only
  split
  next failed =>
    rw [failed]
    exact .trouble (.store _)
  next read =>
    rw [read]
    exact answersSuccess _

theorem notifyAnswers (svc : Service) (r : Request) : Answers none (notify svc r).1 := by
  refine .without ?_
  unfold notify extracting
  cases read : document Access.Notification r with
  | error response => exact blamesDocument r response read
  | ok n =>
    dsimp only
    split
    next => exact show 400 ≠ 500 by decide
    next => exact show 202 ≠ 500 by decide

theorem featuresAnswers (svc : Service) : Answers ((raised? svc.store.allFeatures).map .store) (features svc) := by
  unfold features
  cases svc.store.allFeatures with
  | ok features => exact answersSuccess _
  | error e => exact .trouble (.store e)

theorem validityAnswers (svc : Service) (supply : Supply) (r : Request) :
    Answers ((raised? (session svc (supply 0).now r)).map .unconfirmed) (validity svc supply r) := by
  unfold validity
  cases session svc (supply 0).now r with
  | ok w => exact answersSuccess _
  | error d => cases d <;> exact .trouble (.unconfirmed _)

theorem endpointAnswers (e : Endpoint) (svc : Service) (supply : Supply) (r : Request) :
    Answers (e.trouble? svc supply r) (e.serve svc supply r).1 := by
  cases e with
  | unlocked => exact unlockedAnswers svc supply r
  | notify => exact notifyAnswers svc r
  | features => exact featuresAnswers svc
  | preflight => exact extractingAnswers (blamesAddressed r) fun w => answeringAnswers _ _
  | create | login => exact extractingAnswers (blamesChallenge r) fun p => answeringAnswers _ _
  | update => exact admittedAnswers fun w => extractingAnswers (blamesDocument r) fun p => answeringAnswers _ _
  | addWallet => exact admittedAnswers fun w => extractingAnswers (blamesChallenge r) fun p => answeringAnswers _ _
  | view => exact extractingAnswers (blamesAddressed r) fun w => answeringAnswers (svc.view w, svc) _
  | validity => exact validityAnswers svc supply r
  | health | liveness => exact answersSuccess _

def Request.endpoint? (r : Request) : Option Endpoint :=
  if r.method = .options then none
  else (Endpoint.at? r.path).filter fun e =>
    e.posts && r.method = .post || !e.posts && (r.method = .get || r.method = .head)

def trouble? (svc : Service) (supply : Supply) (r : Request) : Option Trouble :=
  r.endpoint?.bind fun e => e.trouble? svc supply r

def Method.seen (m : Method) (response : Response) : Response := if m = .head then response.bare else response

theorem seenStatus (m : Method) (response : Response) : (m.seen response).status = response.status := by
  unfold Method.seen
  split <;> rfl

theorem serveEndpoint {e : Endpoint} (asked : r.endpoint? = some e) :
    (serve svc supply r).1 = r.method.seen (e.serve svc supply r).1 := by
  unfold Request.endpoint? at asked
  unfold serve Method.seen
  split at asked
  next => contradiction
  next answered =>
    obtain ⟨found, admits⟩ := Option.filter_eq_some_iff.mp asked
    rw [if_neg answered, found]
    dsimp only
    cases posts : e.posts <;> cases method : r.method <;> simp_all

theorem serveElsewhere (lost : r.endpoint? = none) : (serve svc supply r).1.status ≠ 500 := by
  unfold Request.endpoint? at lost
  unfold serve
  split at lost
  next options =>
    rw [if_pos options]
    exact show 200 ≠ 500 by decide
  next answered =>
    rw [if_neg answered]
    split
    next => exact show 404 ≠ 500 by decide
    next e found =>
      rw [found] at lost
      have refused := Option.filter_eq_none_iff.mp lost e rfl
      cases posts : e.posts <;> cases method : r.method <;> simp_all

theorem serveTrouble (met : trouble? svc supply r = some x) : (serve svc supply r).1 = r.method.seen x.response := by
  obtain ⟨e, asked, met⟩ := Option.bind_eq_some_iff.mp met
  have answers := endpointAnswers e svc supply r
  rw [met] at answers
  rw [serveEndpoint asked]
  generalize (e.serve svc supply r).1 = response at answers
  cases answers
  rfl

theorem serveStatus : (serve svc supply r).1.status = 500 ↔ ∃ x, trouble? svc supply r = some x ∧ x.detail?.isSome := by
  unfold trouble?
  cases asked : r.endpoint? with
  | none => simp [serveElsewhere asked]
  | some e =>
    rw [serveEndpoint asked, seenStatus]
    exact answersStatus (endpointAnswers e svc supply r)

def Silent (t : Option Trouble) : Prop := ∀ x, t = some x → x.told = none

section

variable {α : Type}

theorem silentMap {o : Option α} {f : α → Trouble} (silent : ∀ v, (f v).told = none) : Silent (o.map f) := by
  intro x met
  obtain ⟨v, _, rfl⟩ := Option.map_eq_some_iff.mp met
  exact silent v

theorem silentBind {o : Option α} {t : α → Option Trouble} (silent : ∀ v, Silent (t v)) : Silent (o.bind t) := by
  intro x met
  obtain ⟨v, _, met⟩ := Option.bind_eq_some_iff.mp met
  exact silent v x met

theorem silentTold {t : Option Trouble} (silent : Silent t) : ¬ ∃ x, t = some x ∧ x.told = some detail := by
  rintro ⟨x, met, told⟩
  cases (silent x met).symm.trans told

theorem admittedTold {within : α → Option Trouble} {held : Except Denial α} (silent : ∀ v, Silent (within v)) :
    (∃ x, admitted held within = some x ∧ x.told = some detail) ↔ held = .error (.internal detail) := by
  cases held with
  | ok v => exact iff_of_false (silentTold (silent v)) (by simp)
  | error d => cases d <;> simp [admitted, Trouble.told, Denial.detail?]

end

theorem elsewhereSilent {e : Endpoint} (elsewhere : e ≠ .update ∧ e ≠ .addWallet) : Silent (e.trouble? svc supply r) := by
  cases e with
  | update | addWallet => simp at elsewhere
  | unlocked | preflight | create | login | view => exact silentBind fun v => silentMap fun _ => rfl
  | features | validity => exact silentMap fun _ => rfl
  | notify | health | liveness =>
    rintro x ⟨⟩

theorem endpointTold {e : Endpoint} : (∃ x, e.trouble? svc supply r = some x ∧ x.told = some detail) ↔
    (e = .update ∨ e = .addWallet) ∧ session svc (supply 0).now r = .error (.internal detail) := by
  by_cases guarded : e = .update ∨ e = .addWallet
  · rw [and_iff_right guarded]
    rcases guarded with rfl | rfl <;>
      exact admittedTold fun w => silentBind fun p => silentMap fun _ => rfl
  · refine iff_of_false (silentTold (elsewhereSilent (not_or.mp guarded))) ?_
    rintro ⟨there, _⟩
    exact guarded there

theorem requestTold : (∃ x, trouble? svc supply r = some x ∧ x.told = some detail) ↔
    (r.endpoint? = some .update ∨ r.endpoint? = some .addWallet) ∧
      session svc (supply 0).now r = .error (.internal detail) := by
  unfold trouble?
  cases r.endpoint? with
  | none => simp
  | some e => simpa using endpointTold

theorem bareSilent (head : r.method = .head) (met : trouble? svc supply r = some x) : x.told = none := by
  cases told : x.told with
  | none => rfl
  | some detail =>
    obtain ⟨asked | asked, _⟩ := requestTold.mp ⟨x, met, told⟩ <;>
      simp [Request.endpoint?, head, Option.filter_eq_some_iff, Endpoint.posts] at asked

/-- Two errors with status 500 are answered with the same octets exactly where both tell the same detail or neither
tells any. One tells its detail only where a session is due and its key cannot be read. -/
theorem detailWithheld (own : x.response.status = 500) (ours : y.response.status = 500) :
    (x.response = y.response ↔ x.told = y.told) ∧
    (∀ svc supply r other stock q, r.method = q.method → trouble? svc supply r = some x →
      trouble? other stock q = some y → ((serve svc supply r).1 = (serve other stock q).1 ↔ x.told = y.told)) ∧
    (∀ svc supply r, trouble? svc supply r = some x → (serve svc supply r).1 = r.method.seen x.response ∧
      ∀ detail, x.told = some detail ↔ (r.endpoint? = some .update ∨ r.endpoint? = some .addWallet) ∧
        session svc (supply 0).now r = .error (.internal detail)) ∧
    ∀ svc supply r, (serve svc supply r).1.status = 500 ↔
      ∃ z, trouble? svc supply r = some z ∧ z.response.status = 500 := by
  have detail := (responseStatus x).mp own
  have detailOurs := (responseStatus y).mp ours
  refine ⟨responseAlike detail detailOurs, ?runs, ?told, ?met⟩
  case runs =>
    intro svc supply r other stock q method met others
    rw [serveTrouble met, serveTrouble others, ← method]
    by_cases head : r.method = .head
    · have silent : x.told = none := bareSilent head met
      have quiet : y.told = none := bareSilent (method ▸ head) others
      rw [responseWithheld detail silent, responseWithheld detailOurs quiet, silent, quiet]
      simp
    · rw [Method.seen, Method.seen, if_neg head, if_neg head]
      exact responseAlike detail detailOurs
  case told =>
    intro svc supply r met
    refine ⟨serveTrouble met, fun detail => ?_⟩
    rw [← requestTold, met]
    simp
  case met =>
    intro svc supply r
    simp only [responseStatus]
    exact serveStatus

def garbled (fault : Json.Fault) : Service :=
  { Service.trusting with
    store := { Store.empty with
      sessionKeys := SortedMap.empty.insert (Newest.key purseOne ⟨100, 0⟩ "a") (.error fault) } }

def bareToken : String :=
  "eyJhbGciOiJIUzI1NiJ9.eyJhZGRyZXNzIjoiMDEwMTAxMDEwMTAxMDEwMTAxMDEwMTAxMDEwMTAxMDEwMTAxMDEwMSIsImlzcyI6IiIsImlhdCI6MCwiZXhwIjowfQ."

def presenting (e : Endpoint) : Request :=
  ⟨if e.posts then .post else .get, e.path, "", [⟨"authorization", utf8 ("Bearer " ++ bareToken)⟩], []⟩

theorem garbledKey (fault : Json.Fault) :
    Issuer.keyOf (garbled fault).store purseOne = .error (.internal (StoreError.unreadable fault).message) := by
  cases fault <;> rfl

theorem sessionKeyless {now : Time.Timestamp} {token : String} {t : Presented} {d : Denial}
    (given : r.headers.bearer = .ok token) (presented : Presented.ofText? token = some t)
    (keyless : Issuer.keyOf svc.store t.claims.wallet = .error d) : session svc now r = .error d := by
  simp only [session, given, bind, Except.bind, Issuer.verify, presented, keyless]

theorem turnedAway {d : Denial} (asked : r.endpoint? = some .update)
    (failed : session svc (supply 0).now r = .error d) : trouble? svc supply r = some (.turnedAway d) := by
  simp [trouble?, asked, Endpoint.trouble?, failed, admitted]

theorem unconfirmed {d : Denial} (asked : r.endpoint? = some .validity)
    (failed : session svc (supply 0).now r = .error d) : trouble? svc supply r = some (.unconfirmed d) := by
  simp [trouble?, asked, Endpoint.trouble?, failed, raised?]

theorem garbledSession (fault : Json.Fault) (now : Time.Timestamp) (e : Endpoint) :
    session (garbled fault) now (presenting e) = .error (.internal (StoreError.unreadable fault).message) := by
  have bearer : (Headers.bearer [⟨"authorization", utf8 ("Bearer " ++ bareToken)⟩]).toOption = some bareToken := by
    decide +kernel
  have named : (Presented.ofText? bareToken).map (·.claims.wallet) = some purseOne := by decide +kernel
  obtain ⟨t, presented, own⟩ := Option.map_eq_some_iff.mp named
  exact sessionKeyless (toOptionSome.mp bearer) presented (own ▸ garbledKey fault)

theorem presentingAsks (e : Endpoint) : (presenting e).endpoint? = some e := by
  cases e <;> simp [presenting, Request.endpoint?, Endpoint.at?, Endpoint.all, Endpoint.path, Endpoint.posts]

theorem detailWithheldGarbled :
    (serve (garbled .truncated) (Service.still "b" 4) (presenting .validity)).1.status = 500 ∧
      (serve (garbled .truncated) (Service.still "b" 4) (presenting .validity)).1 =
        (serve (garbled .malformed) (Service.still "b" 4) (presenting .validity)).1 := by
  have met (fault : Json.Fault) : trouble? (garbled fault) (Service.still "b" 4) (presenting .validity) =
      some (.unconfirmed (.internal (StoreError.unreadable fault).message)) :=
    unconfirmed (presentingAsks _) (garbledSession fault _ _)
  have inside (fault : Json.Fault) :
      (Trouble.unconfirmed (.internal (StoreError.unreadable fault).message)).response.status = 500 := rfl
  obtain ⟨_, runs, _, status⟩ := detailWithheld (inside .truncated) (inside .malformed)
  exact ⟨(status _ _ _).mpr ⟨_, met .truncated, inside .truncated⟩,
    (runs _ _ _ _ _ _ rfl (met .truncated) (met .malformed)).mpr rfl⟩

theorem turnedAwayTold :
    ∃ detail other,
      trouble? (garbled .truncated) (Service.still "b" 4) (presenting .update) = some (.turnedAway (.internal detail)) ∧
      trouble? (garbled .malformed) (Service.still "b" 4) (presenting .update) = some (.turnedAway (.internal other)) ∧
      (serve (garbled .truncated) (Service.still "b" 4) (presenting .update)).1.status = 500 ∧
      (serve (garbled .malformed) (Service.still "b" 4) (presenting .update)).1.status = 500 ∧
      (serve (garbled .truncated) (Service.still "b" 4) (presenting .update)).1 ≠
        (serve (garbled .malformed) (Service.still "b" 4) (presenting .update)).1 := by
  have met (fault : Json.Fault) : trouble? (garbled fault) (Service.still "b" 4) (presenting .update) = _ :=
    turnedAway (presentingAsks _) (garbledSession fault _ _)
  refine ⟨_, _, met .truncated, met .malformed, ?_⟩
  rw [serveTrouble (met .truncated), serveTrouble (met .malformed)]
  refine ⟨rfl, rfl, fun same => ?_⟩
  have equal := deniedDetail same
  exact absurd equal (by decide)

end Http
end HolderGate
