import OpsPlatform.Go.Basic

/-! `base64.URLEncoding`. -/
namespace OpsPlatform.Go.Base64

def alphabet : List Char :=
  "ABCDEFGHIJKLMNOPQRSTUVWXYZabcdefghijklmnopqrstuvwxyz0123456789-_".toList

def padding : Char := '='

/-- The character that stands for the lowest six bits of a number. -/
def digit (n : ℕ) : Char := alphabet.getD (n%64) padding

/-- The characters of one group after another; the last group may be short. -/
def encode : Bytes → List Char
  | [] => []
  | [a] => [digit (a.toNat/4),digit (a.toNat*16),padding,padding]
  | [a,b] => [digit (a.toNat/4),digit (a.toNat*16 + b.toNat/16),digit (b.toNat*4),padding]
  | a :: b :: c :: rest =>
    digit (a.toNat/4) :: digit (a.toNat*16 + b.toNat/16) :: digit (b.toNat*4 + c.toNat/64) ::
      digit c.toNat :: encode rest

def encodeToString (src : Bytes) : String := String.ofList (encode src)

end OpsPlatform.Go.Base64
