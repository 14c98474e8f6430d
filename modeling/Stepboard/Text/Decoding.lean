import Stepboard.Text.Numeral
import Stepboard.Text.Utf8
/-!
# Decoding errors

The wording of a decoding error: the byte, or the range of bytes, and what is wrong there.
-/

namespace Stepboard.Utf8

def Defect.message : Defect → String
  | .badStart => "invalid start byte"
  | .badContinuation => "invalid continuation byte"
  | .cutOff => "unexpected end of data"

def DecodeError.message (e : DecodeError) : String :=
  let place :=
    match e.bytes with
    | [b] =>
      "byte 0x" ++ String.ofList (Numeral.fixed 16 2 b.toNat) ++ " in position " ++
        Numeral.decimal e.position
    | bytes =>
      "bytes in position " ++ Numeral.decimal e.position ++ "-" ++
        Numeral.decimal (e.position + bytes.length - 1)
  "'utf-8' codec can't decode " ++ place ++ ": " ++ e.defect.message

end Stepboard.Utf8
