import HolderGate.Text.Lossy
import HolderGate.Text.Percent
import HolderGate.Text.Split

/-! Query strings in the encoding of forms. -/
namespace HolderGate.Http.Query

def component (cs : List Char) : String :=
  Text.Lossy.decode (Text.Percent.decode (utf8 (String.ofList
    (cs.map (fun c => if c = '+' then ' ' else c)))))

def pairs (query : String) : List (String × String) :=
  ((Text.split '&' query.toList).filter (!·.isEmpty)).map (fun part =>
    let (name, value) := Text.cut '=' part
    (component name, component (value.getD [])))

def only? (query name : String) : Option String :=
  match (pairs query).filter (·.1 == name) with
  | [(_, value)] => some value
  | _ => none

end HolderGate.Http.Query
