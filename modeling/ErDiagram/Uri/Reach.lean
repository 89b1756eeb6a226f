import ErDiagram.Fault
import ErDiagram.Uri.Address

/-!
# Addresses that requests reach

Not every address can be asked. What goes with a request and the location itself have to be ASCII, and a
name that stands for other characters has to be one that can be read back.
-/

namespace ErDiagram.Uri.Address

def isAscii (text : CodeString) : Bool := text.codes.all (· < 0x80)

/-- The address that a text leads to from a base address, if a request that tells of an authorization
reaches it. -/
def reach (base : Address) (authorization : Option CodeString) (text : String) : Except Fault Address := do
  let address ← (base.resolve text).mapError .address
  let texts := authorization.toList ++ [CodeString.whole (String.ofList address.location)]
  if let some text := texts.find? (!isAscii ·) then
    throw (.notAscii text)
  address.checkReadable.mapError .hostName
  return address

end ErDiagram.Uri.Address
