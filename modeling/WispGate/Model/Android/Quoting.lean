import WispGate.Model.Android.Handshake

/-! # Texts that Android authenticates

`JSONObject.quote` of the two libraries the Kotlin code runs with, Android's own and the one of the
Java runtime, and the nonce and the associated data that `SessionCrypto` builds by hand. Sequences
are `Long`s.
-/

namespace WispGate.Model.Android

open Data

/-- The implementations of `org.json`. -/
inductive JsonLibrary where
  | android
  | jvm
deriving DecidableEq

namespace JSONObject

variable (library : JsonLibrary)

/-- The characters that are written by their number. -/
def numbered (c : Char) : Bool :=
  match library with
  | .android => decide (c.toNat ≤ 0x1f)
  | .jvm => decide (c.toNat < 32 ∨ (0x80 ≤ c.toNat ∧ c.toNat < 0xa0) ∨ (0x2000 ≤ c.toNat ∧ c.toNat < 0x2100))

/-- One character behind the one before it. -/
def quoteChar (before c : Char) : List Char :=
  if c = '"' ∨ c = '\\' then ['\\', c]
  else if c = '/' then if library = .android ∨ before = '<' then ['\\', '/'] else ['/']
  else if c = '\t' then ['\\', 't']
  else if c.toNat = 8 then ['\\', 'b']
  else if c = '\n' then ['\\', 'n']
  else if c = '\r' then ['\\', 'r']
  else if c.toNat = 12 then ['\\', 'f']
  else if numbered library c then '\\' :: 'u' :: Json.hex4 c.toNat
  else [c]

def quoteChars : Char → List Char → List Char
  | _, [] => []
  | before, c :: rest => quoteChar library before c ++ quoteChars c rest

def quote (text : String) : String :=
  String.ofList ('"' :: (quoteChars library (Char.ofNat 0) text.toList ++ ['"']))

end JSONObject

namespace SessionCrypto

def noncePrefix : Bytes := [0x57, 0x47, 1, 0]

/-- `SessionCrypto.nonce`, with `putLong` of what is not negative. -/
def nonce (sequence : ℤ) : Option Bytes :=
  if 0 ≤ sequence then some (noncePrefix ++ bigEndian sequence.toNat) else none

/-- The members of the associated data, with texts quoted. -/
def aadText (recipient sender : String) (sequence : ℤ) (sessionId : String) : String :=
  "\x7b\"recipient\":" ++ recipient ++ ",\"sender\":" ++ sender ++ ",\"sequence\":" ++ toString sequence ++
    ",\"session_id\":" ++ sessionId ++ ",\"type\":\"session_envelope\",\"version\":1\x7d"

def aad (quote : String → String) (sessionId sender recipient : String) (sequence : ℤ) : Bytes :=
  utf8 (aadText (quote recipient) (quote sender) sequence (quote sessionId))

end SessionCrypto

end WispGate.Model.Android
