import PaymentRules.Text.Attaching
import PaymentRules.Text.Printable

/-!
# Quoted names

In an outline a name stands between double quotes. Inside it a quote, a backslash and the usual
controls are written with a backslash. A character that would not show, or that would only show on
the character before it, is written by its code point in hexadecimal, between braces.
-/

namespace PaymentRules.Text

/-- A character that is written by its code point: it shows on the one before it, or not at all. -/
def isHidden (c : Char) : Bool :=
  isAttaching c || !isPrintable c

/-- One character of a quoted name. -/
def quoteChar (c : Char) : List Char :=
  match c with
  | '"' => ['\\', '"']
  | '\\' => ['\\', '\\']
  | '\n' => ['\\', 'n']
  | '\r' => ['\\', 'r']
  | '\t' => ['\\', 't']
  | '\x00' => ['\\', '0']
  | _ =>
    if isHidden c then ['\\', 'u', '\x7b'] ++ Nat.toDigits 16 c.toNat ++ ['\x7d'] else [c]

/-- A name between double quotes. -/
def quote (s : String) : String :=
  String.ofList ('"' :: s.toList.flatMap quoteChar ++ ['"'])

end PaymentRules.Text
