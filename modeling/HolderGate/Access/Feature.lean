import HolderGate.Chain.Token

/-! Features and the holding of a token that unlocks each of them. -/
namespace HolderGate.Access
open Chain

inductive Standard where
  | erc20
  | erc721
  | erc1155
  deriving DecidableEq, Repr

namespace Standard

def name : Standard → String
  | erc20 => "ERC20"
  | erc721 => "ERC721"
  | erc1155 => "ERC1155"

def codec : Json.Codec Standard := .named ([erc20, erc721, erc1155].map (fun s => (s.name, s))) name

instance : Json.Document Standard := ⟨codec⟩

end Standard

structure Feature where
  name : String
  required : Token
  threshold : UInt64
  standard : Standard
  deriving DecidableEq, Repr

namespace Feature

def token (f : Feature) : Token :=
  match f.standard with
  | .erc20 => .fungible f.required.contract
  | .erc721 | .erc1155 => f.required

def fields : Json.Fields [String, Token, UInt64, Standard] :=
  .cons (.required "name" .string) <|
  .cons (.required "required_token" Token.codec) <|
  .cons (.required "required_amount" .uint64) <|
  .cons (.required "token_type" Standard.codec) .nil

def codec : Json.Codec Feature :=
  fields.codec.map
    (fun (name, required, threshold, standard, ()) => ⟨name, required, threshold, standard⟩)
    (fun f => (f.name, f.required, f.threshold, f.standard, ()))

instance : Json.Document Feature := ⟨codec⟩

instance : Json.Document (List Feature) := ⟨.array codec⟩

end Feature
end HolderGate.Access
