import HolderGate.Store.Basic

/-! Seeding the store with features from a file. -/
namespace HolderGate.Store
open Access

inductive SeedError where
  | file (detail : String)
  | content (detail : String)
  | storage (e : StoreError)
  deriving DecidableEq, Repr

def SeedError.message : SeedError → String
  | file detail => "failed to read feature file: " ++ detail
  | content detail => "invalid feature file: " ++ detail
  | storage e => "storage error: " ++ e.message

def seedText (s : Store) (text : Bytes) : Except Json.Fault (Nat × Store) :=
  (Json.read text : Except Json.Fault (List Feature)).map s.seed

end HolderGate.Store
