import InferenceDispatch.Number.Whole

namespace InferenceDispatch.Http.Percent

def hexDigit (n : Nat) : Char := (Nat.digitChar n).toUpper

def utf8 (c : Char) : List UInt8 := c.toString.toUTF8.toList

def encodeChar (c : Char) : List Char :=
  (utf8 c).flatMap fun b => ['%', hexDigit (b.toNat / 16), hexDigit (b.toNat % 16)]

def encode (reserved : String) (s : List Char) : String :=
  String.ofList (s.flatMap fun c =>
    if c.toNat < 0x20 ∨ 0x7E < c.toNat ∨ reserved.toList.contains c then encodeChar c else [c])

def inFragment : String := " \"<>\x60"

def inQuery : String := " \"#<>"

def inSegment : String := " \"#<>?\x60\x7b\x7d"

def inCredentials : String := inSegment ++ "/:;=@[\\]^|"

/-- The bytes of a text in which encoded bytes stand for themselves. A percent sign without two
digits behind it is one too. -/
def decode : List Char → List UInt8
  | '%' :: a :: b :: r =>
    match Whole.hexValue? a, Whole.hexValue? b with
    | some x, some y => (16 * x + y).toUInt8 :: decode r
    | _, _ => utf8 '%' ++ decode (a :: b :: r)
  | c :: r => utf8 c ++ decode r
  | [] => []

def decode? (s : List Char) : Option (List Char) :=
  (String.fromUTF8? (ByteArray.mk (decode s).toArray)).map String.toList

end InferenceDispatch.Http.Percent
