import IngestCheck.Text.Printable
import IngestCheck.Text.Utf8

namespace IngestCheck.Quoted

def escapeChar (c : Char) : String :=
  match c with
  | '\x00' => "\\0"
  | '\t' => "\\t"
  | '\r' => "\\r"
  | '\n' => "\\n"
  | '"' => "\\\""
  | '\\' => "\\\\"
  | c => if isPrintable c then c.toString
      else "\\u\x7b" ++ String.ofList (Nat.toDigits 16 c.toNat) ++ "\x7d"

def escapeByte (b : UInt8) : String :=
  let digits := (Nat.toDigits 16 b.toNat).map Char.toUpper
  "\\x" ++ String.ofList (if digits.length < 2 then '0' :: digits else digits)

def escapePiece : Utf8.Piece → String
  | .char c => escapeChar c
  | .invalid bytes => String.join (bytes.map escapeByte)

def text (s : String) : String :=
  "\"" ++ String.join (s.toList.map escapeChar) ++ "\""

def bytes (b : Bytes) : String :=
  "\"" ++ String.join ((Utf8.pieces b).map escapePiece) ++ "\""

def list (items : List String) : String :=
  "[" ++ ", ".intercalate items ++ "]"

def mapping (entries : List (String × Bytes)) : String :=
  "\x7b" ++ ", ".intercalate (entries.map fun e ↦ text e.1 ++ ": " ++ bytes e.2) ++ "\x7d"

end IngestCheck.Quoted
