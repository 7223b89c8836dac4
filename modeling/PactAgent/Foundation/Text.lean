import Mathlib

/-! Strings as a JavaScript program sees them: trimming, lower case and length in
UTF-16 units. -/

namespace PactAgent.Foundation.Text

/-- White space and line terminators of the language. -/
def isWhiteSpace (character : Char) : Bool :=
  let code := character.toNat
  (9 ≤ code && code ≤ 13) || code == 0x20 || code == 0xa0 || code == 0x1680 ||
    (0x2000 ≤ code && code ≤ 0x200a) || code == 0x2028 || code == 0x2029 || code == 0x202f ||
    code == 0x205f || code == 0x3000 || code == 0xfeff

def trim (text : String) : String :=
  String.ofList (((text.toList.dropWhile isWhiteSpace).reverse.dropWhile isWhiteSpace).reverse)

/-- `length`: characters outside the basic plane count twice. -/
def utf16Length (text : String) : Nat :=
  (text.toList.map fun character => if character.toNat < 0x10000 then 1 else 2).sum

/-- A `toLowerCase` of the runtime's Unicode version. Versions differ outside ASCII;
on ASCII text all of them fold the letters. -/
structure LowerCase where
  lower : String → String
  ascii : ∀ text : String, (∀ character ∈ text.toList, character.toNat < 128) →
    lower text = String.ofList (text.toList.map Char.toLower)

/-- The instance that leaves everything outside ASCII alone. -/
def asciiLowerCase : LowerCase where
  lower text := String.ofList (text.toList.map Char.toLower)
  ascii _ _ := rfl

end PactAgent.Foundation.Text
