import HolderGate.Identity.Wallet
import HolderGate.SortedMap
import HolderGate.Time.Timestamp

/-! Keys under which the documents of a wallet follow each other from the newest to the oldest.
Documents of one instant follow each other by identifier. -/
namespace HolderGate.Newest
open Identity Time

def bar : UInt8 := 0x7C

def start (wallet : Wallet) : Bytes := utf8 wallet.text ++ [bar]

def stop (wallet : Wallet) : Bytes := start wallet ++ List.replicate 20 0xFF

def key (wallet : Wallet) (created : Timestamp) (id : String) : Bytes :=
  start wallet ++ bigEndian 8 created.recency ++ bar :: utf8 id

def first {α : Type} (table : SortedMap Bytes α) (wallet : Wallet) : Option α :=
  (table.firstIn (start wallet) (stop wallet)).map Prod.snd

end HolderGate.Newest
