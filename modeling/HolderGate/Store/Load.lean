import HolderGate.Store.Basic

/-! Documents that are found in the store at the start, whatever they look like. -/
namespace HolderGate.Store

inductive Table where
  | users
  | owners
  | nonces
  | sessionKeys
  | attempts
  | features
  | holdings
  deriving DecidableEq, Repr

def Table.name : Table → String
  | users => "users"
  | owners => "address_users"
  | nonces => "nonces"
  | sessionKeys => "session_keys"
  | attempts => "login_attempts"
  | features => "feature_flags"
  | holdings => "access_states"

def Table.all : List Table := [users, owners, nonces, sessionKeys, attempts, features, holdings]

def Table.ofName? (name : String) : Option Table := all.find? (·.name = name)

/-- Puts a text under a key. A key that is no text finds nothing in the tables whose keys are texts. -/
def load (s : Store) (table : Table) (key value : Bytes) : Store :=
  match table with
  | .nonces => { s with nonces := s.nonces.insert key (Json.read value) }
  | .sessionKeys => { s with sessionKeys := s.sessionKeys.insert key (Json.read value) }
  | .users => named (fun k => { s with users := s.users.insert k (Json.read value) })
  | .attempts => named (fun k => { s with attempts := s.attempts.insert k (Json.read value) })
  | .features => named (fun k => { s with features := s.features.insert k (Json.read value) })
  | .holdings => named (fun k => { s with holdings := s.holdings.insert k (Json.read value) })
  | .owners => named (fun k =>
    ((text? value).map (fun v => { s with owners := s.owners.insert k v })).getD s)
where
  named (insert : String → Store) : Store := ((text? key).map insert).getD s

end HolderGate.Store
