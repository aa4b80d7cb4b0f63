import HolderGate.Access.Watch

/-! The listener to the logs of the chain, up to its connection. -/
namespace HolderGate.Sync
open Access

inductive ListenerError where
  | connect (url detail : String)
  | subscribe (detail : String)
  | rpc (detail : String)
  | streamClosed
  | queueClosed
  deriving DecidableEq, Repr

def ListenerError.message : ListenerError → String
  | connect url detail => "failed to connect to " ++ url ++ ": " ++ detail
  | subscribe detail => "log subscription failed: " ++ detail
  | rpc detail => "RPC error: " ++ detail
  | streamClosed => "log subscription stream closed"
  | queueClosed => "update queue closed"

def listenTo (url : String) (features : List Feature) (connect : String → Except String Unit) :
    Except ListenerError Unit :=
  if (watched features).isEmpty then .ok ()
  else (connect url).mapError (.connect url)

end HolderGate.Sync
