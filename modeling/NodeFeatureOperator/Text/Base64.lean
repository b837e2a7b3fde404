/-!
# Base 64

The canonical form of base 64: groups of four letters, padding at the end only, and no bit set that
the padding leaves over. A text in canonical form is the only one for its bytes.
-/

namespace NodeFeatureOperator.Text

/-- The value of a letter of the alphabet. -/
def base64Value? (c : Char) : Option Nat :=
  if 'A' ≤ c ∧ c ≤ 'Z' then some (c.toNat - 'A'.toNat)
  else if 'a' ≤ c ∧ c ≤ 'z' then some (c.toNat - 'a'.toNat + 26)
  else if '0' ≤ c ∧ c ≤ '9' then some (c.toNat - '0'.toNat + 52)
  else if c = '+' then some 62
  else if c = '/' then some 63
  else none

/-- Whether letters are in canonical form. -/
def isBase64Letters : List Char → Bool
  | [] => true
  | [a, b, '=', '='] =>
    match base64Value? a, base64Value? b with
    | some _, some v => v % 16 = 0
    | _, _ => false
  | [a, b, c, '='] =>
    match base64Value? a, base64Value? b, base64Value? c with
    | some _, some _, some v => v % 4 = 0
    | _, _, _ => false
  | a :: b :: c :: d :: rest =>
    (base64Value? a).isSome && (base64Value? b).isSome && (base64Value? c).isSome
      && (base64Value? d).isSome && isBase64Letters rest
  | _ => false

/-- Whether a text is in canonical form. -/
def isBase64 (s : String) : Bool := isBase64Letters s.toList

end NodeFeatureOperator.Text
