import HolderGate.Http.Request
import HolderGate.Service

/-! The endpoints of the service, from the request to the response. -/
namespace HolderGate.Http
open Identity Access Auth

inductive Endpoint where
  | unlocked
  | notify
  | features
  | preflight
  | create
  | login
  | update
  | addWallet
  | view
  | validity
  | health
  | liveness
  deriving DecidableEq, Repr

namespace Endpoint

def all : List Endpoint :=
  [unlocked, notify, features, preflight, create, login, update, addWallet, view, validity, health, liveness]

def path : Endpoint → String
  | unlocked => "/features/v1/access/user_get"
  | notify => "/features/v1/access/notify"
  | features => "/features/v1/flags"
  | preflight => "/auth/v1/preflight"
  | create => "/auth/v1/users/create"
  | login => "/auth/v1/users/login"
  | update => "/auth/v1/users/update"
  | addWallet => "/auth/v1/users/addresses/add"
  | view => "/auth/v1/users/get"
  | validity => "/auth/v1/jwt_valid"
  | health => "/health"
  | liveness => "/health/live"

def posts : Endpoint → Bool
  | notify | create | login | update | addWallet => true
  | _ => false

def at? (path : String) : Option Endpoint := all.find? (·.path = path)

end Endpoint

def session (svc : Service) (now : Time.Timestamp) (r : Request) : Except Denial Wallet := do
  svc.issuer.verify svc.store now (← r.headers.bearer)

def authenticated (svc : Service) (now : Time.Timestamp) (r : Request) : Extract Wallet :=
  (session svc now r).mapError denied

def extracting {α : Type} (svc : Service) (e : Extract α) (k : α → Response × Service) :
    Response × Service :=
  match e with
  | .ok v => k v
  | .error r => (r, svc)

def answering {α : Type} (result : Except AccountError α × Service)
    (members : α → List (String × Bytes)) : Response × Service :=
  match result with
  | (.ok v, svc) => (.json 200 (members v), svc)
  | (.error e, svc) => ((Failure.ofAccount e).response, svc)

def unlocked (svc : Service) (r : Request) : Response × Service :=
  extracting svc (parameter r "user_id") (fun user =>
    let features : Except StoreError (List Feature) := do
      let _ ← svc.store.user user
      svc.store.featuresOf user
    match features with
    | .error e => ((Failure.ofStore e).response, svc)
    | .ok features => (.json 200 [("features", featureList features)], (svc.request user).2))

def notify (svc : Service) (r : Request) : Response × Service :=
  extracting svc (document Access.Notification r) (fun n =>
    if Text.isBlankText n.user then ((Failure.badRequest "user_id is required").response, svc)
    else
      let (reached, svc) := svc.announce n
      let (accepted, svc) := if 0 < reached then (true, svc) else svc.request n.user
      (.json 202 [("accepted", Json.flag accepted)], svc))

def features (svc : Service) : Response :=
  match svc.store.allFeatures with
  | .ok features => .json 200 [("flags", featureList features), ("total", Json.decimal features.length)]
  | .error e => (Failure.ofStore e).response

def preflight (svc : Service) (supply : Supply) (r : Request) : Response × Service :=
  extracting svc (addressed r) (fun wallet =>
    answering (svc.preflight supply wallet) (fun p =>
      [("nonce", Json.quoted p.nonce), ("user_exists", Json.flag p.userExists)]))

def create (svc : Service) (supply : Supply) (r : Request) : Response × Service :=
  extracting svc (challenge r) (fun p => answering (svc.create supply r.headers.caller p) outcomeMembers)

def login (svc : Service) (supply : Supply) (r : Request) : Response × Service :=
  extracting svc (challenge r) (fun p => answering (svc.login supply r.headers.caller p) outcomeMembers)

def update (svc : Service) (supply : Supply) (r : Request) : Response × Service :=
  extracting svc (authenticated svc (supply 0).now r) (fun wallet =>
    extracting svc (document Profile r) (fun p =>
      answering (svc.update (supply.after 1) wallet p.username p.bio) userMembers))

def addWallet (svc : Service) (supply : Supply) (r : Request) : Response × Service :=
  extracting svc (authenticated svc (supply 0).now r) (fun wallet =>
    extracting svc (challenge r) (fun p =>
      answering (svc.addWallet (supply.after 1) r.headers.caller wallet p) outcomeMembers))

def view (svc : Service) (r : Request) : Response × Service :=
  extracting svc (addressed r) (fun wallet => answering (svc.view wallet, svc) userMembers)

def validity (svc : Service) (supply : Supply) (r : Request) : Response :=
  match session svc (supply 0).now r with
  | .ok wallet => .json 200 [("valid", Json.flag true), ("address", Json.quoted wallet.text)]
  | .error (.internal detail) => (Failure.internal detail).response
  | .error _ => .json 200 [("valid", Json.flag false)]

def health (svc : Service) : Response :=
  let count := (svc.store.allFeatures.toOption.map (·.length)).getD 0
  .json 200 [("status", Json.quoted "ok"),
    ("checks", Json.object [("service", Json.quoted "ok"), ("database", Json.quoted "ok"),
      ("feature_flags", Json.decimal count)])]

def liveness : Response := .json 200 [("status", Json.quoted "ok")]

def Endpoint.serve (e : Endpoint) (svc : Service) (supply : Supply) (r : Request) : Response × Service :=
  match e with
  | unlocked => Http.unlocked svc r
  | notify => Http.notify svc r
  | features => (Http.features svc, svc)
  | preflight => Http.preflight svc supply r
  | create => Http.create svc supply r
  | login => Http.login svc supply r
  | update => Http.update svc supply r
  | addWallet => Http.addWallet svc supply r
  | view => Http.view svc r
  | validity => (Http.validity svc supply r, svc)
  | health => (Http.health svc, svc)
  | liveness => (Http.liveness, svc)

def serve (svc : Service) (supply : Supply) (r : Request) : Response × Service :=
  if r.method = .options then (⟨200, .text ""⟩, svc)
  else match Endpoint.at? r.path with
    | none => (⟨404, .text ""⟩, svc)
    | some e =>
      if e.posts && r.method = .post || !e.posts && r.method = .get then e.serve svc supply r
      else if !e.posts && r.method = .head then
        let (response, svc) := e.serve svc supply r
        (response.bare, svc)
      else (⟨405, .text ""⟩, svc)

end HolderGate.Http
