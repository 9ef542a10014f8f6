/-
# Credentials

How a call proves who makes it: a name and a password, a token, or nothing.

Models `Credentials` with `apply`.
-/

import QueryConsole.Text.Quoted
import QueryConsole.Text.Utf8

namespace QueryConsole

/-- What a call is authorised by. -/
inductive Credentials where
  | basic (username password : String)
  | bearer (token : String)
  | anonymous
  deriving DecidableEq

namespace Credentials

/-- The digits of Base64. -/
def base64Digits : List Char :=
  "ABCDEFGHIJKLMNOPQRSTUVWXYZabcdefghijklmnopqrstuvwxyz0123456789+/".toList

/-- The Base64 digit of a number below 64. -/
def base64Digit (n : Nat) : Char := base64Digits.getD n '='

/-- Bytes in Base64: four digits for three bytes, the last group filled up with equals signs. -/
def base64 : List UInt8 → List Char
  | a :: b :: c :: rest =>
    let n := (a.toNat * 256 + b.toNat) * 256 + c.toNat
    base64Digit (n / 262144) :: base64Digit (n / 4096 % 64) :: base64Digit (n / 64 % 64) ::
      base64Digit (n % 64) :: base64 rest
  | [a, b] =>
    let n := (a.toNat * 256 + b.toNat) * 256
    [base64Digit (n / 262144), base64Digit (n / 4096 % 64), base64Digit (n / 64 % 64), '=']
  | [a] =>
    let n := a.toNat * 65536
    [base64Digit (n / 262144), base64Digit (n / 4096 % 64), '=', '=']
  | [] => []

/-- The text of the authorisation header. -/
def header? : Credentials → Option (List Char)
  | basic username password =>
    some ("Basic ".toList ++ base64 (Utf8.encode (username.toList ++ ':' :: password.toList)))
  | bearer token => some ("Bearer ".toList ++ token.toList)
  | anonymous => none

/-- The credentials without their secret, for diagnostics. -/
def redacted : Credentials → String
  | basic username _ =>
    String.ofList ("Basic \x7b username: ".toList ++ Text.quoted username.toList ++
      ", password: \"***\" \x7d".toList)
  | bearer _ => "Bearer(***)"
  | anonymous => "Anonymous"

/-- The parts of the credentials, secrets included. -/
def parts : Credentials → List String
  | basic username password => [username, password]
  | bearer token => [token]
  | anonymous => []

end Credentials
end QueryConsole
