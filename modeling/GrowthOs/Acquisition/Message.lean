import GrowthOs.Acquisition.Transport
import Mathlib.Data.List.Lex

/-!
# Header parameters

What the acquisition code uses of the standard library's `email.message.Message` on a `Content-Type`
header: `get_content_type` and `get_params`, with the RFC 2231 decoding of `email.utils`.
`get_params` reports an extended parameter under its plain name, as a tuple. It raises `TypeError`
when it sorts continuations of which some have a number and some have none.
-/

namespace GrowthOs.Acquisition

open Library

/-- `str.isspace` of a character. -/
def isSpace (c : Nat) : Bool :=
  (0x09 ≤ c && c ≤ 0x0D) || (0x1C ≤ c && c ≤ 0x20) || c == 0x85 || c == 0xA0 || c == 0x1680 ||
    (0x2000 ≤ c && c ≤ 0x200A) || c == 0x2028 || c == 0x2029 || c == 0x202F || c == 0x205F ||
    c == 0x3000

/-- `str.strip()`. -/
def stripSpace (s : Text) : Text := Text.strip isSpace s

/-- `str.lower`, as far as its result is ASCII: beside the ASCII letters, the Kelvin sign. -/
def lowerAscii (s : Text) : Text := s.map fun c => if c = 0x212A then 0x6B else Text.lowerChar c

/-- Replace every pair of characters, from the left. -/
def replacePair (first second new : Nat) : Text → Text
  | [] => []
  | [c] => [c]
  | c :: d :: rest =>
      if c = first ∧ d = second then new :: replacePair first second new rest
      else c :: replacePair first second new (d :: rest)

/-- `s.count('\\"')`. -/
def countEscapedQuotes : Text → Nat
  | [] => 0
  | [_] => 0
  | c :: d :: rest =>
      if c = 0x5C ∧ d = 0x22 then countEscapedQuotes rest + 1 else countEscapedQuotes (d :: rest)

/-- The text of a stored header. A value with surrogates becomes a `Header`, whose `str` replaces
undecodable bytes and fails when there are other non-ASCII characters. -/
def headerText (value : Text) : Except LibraryError Text :=
  if value.any fun c => 0xD800 ≤ c && c ≤ 0xDFFF then
    if value.all fun c => c < 0x80 || (0xDC80 ≤ c && c ≤ 0xDCFF) then
      .ok (value.map fun c => if c < 0x80 then c else 0xFFFD)
    else .error .valueError
  else .ok value

/-- `Message.get_content_type`. -/
def getContentType (header : Text) : Text :=
  let ctype := lowerAscii (stripSpace (Text.splitFirst 0x3B header).1)
  if ctype.count 0x2F = 1 then ctype else Text.ofString "text/plain"

/-! ## `get_params` -/

/-- A parameter value: a string, or the tuple of an extended parameter. -/
inductive ParamValue where
  | text (value : Text)
  | extended (charset language : Option Text) (value : Text)
  deriving DecidableEq, Repr

/-- The fields between the semicolons of `_parseparam`. A semicolon after an odd number of quotes
separates nothing. -/
def splitParams (field : Text) : Text → List Text
  | [] => [field]
  | c :: rest =>
      if c = 0x3B ∧ (field.count 0x22 + countEscapedQuotes field) % 2 = 0 then
        field :: splitParams [] rest
      else splitParams (field ++ [c]) rest

/-- `_parseparam`. -/
def parseParam (header : Text) : List Text :=
  (splitParams [] header).map fun field =>
    stripSpace <| match Text.splitFirst 0x3D field with
      | (name, some value) => lowerAscii (stripSpace name) ++ 0x3D :: stripSpace value
      | (_, none) => field

/-- The names and values of `_get_params_preserve`. -/
def rawParams (header : Text) : List (Text × Text) :=
  (parseParam header).map fun param =>
    match Text.splitFirst 0x3D param with
    | (name, some value) => (stripSpace name, stripSpace value)
    | (name, none) => (stripSpace name, [])

/-- `utils.unquote`. -/
def unquote (s : Text) : Text :=
  if s.length ≤ 1 then s
  else if s.head? = some 0x22 ∧ s.getLast? = some 0x22 then
    replacePair 0x5C 0x22 0x22 (replacePair 0x5C 0x5C 0x5C s.tail.dropLast)
  else if s.head? = some 0x3C ∧ s.getLast? = some 0x3E then s.tail.dropLast
  else s

/-- `utils.quote`. -/
def quote (s : Text) : Text := s.flatMap fun c => if c = 0x5C ∨ c = 0x22 then [0x5C, c] else [c]

/-- `'"%s"' % s`. -/
def inQuotes (s : Text) : Text := 0x22 :: s ++ [0x22]

/-- A character of `\w` with `re.ASCII`. -/
def isWord (c : Nat) : Bool := isAlnum c || c == 0x5F

/-- `rfc2231_continuation.match`: the groups `name` and `num`. -/
def matchContinuation (name : Text) : Option (Text × Option Text) :=
  let word := name.takeWhile isWord
  match name.dropWhile isWord with
  | 0x2A :: rest =>
      let digits := rest.takeWhile fun c => 0x30 ≤ c && c ≤ 0x39
      let tail := rest.dropWhile fun c => 0x30 ≤ c && c ≤ 0x39
      if word.isEmpty then none
      else if rest.isEmpty then some (word, none)
      else if !digits.isEmpty && (tail.isEmpty || tail == [0x2A]) then some (word, some digits)
      else none
  | _ => none

/-- One entry of `rfc2231_params`. -/
structure Continuation where
  num : Option Nat
  value : Text
  encoded : Bool
  deriving DecidableEq, Repr

/-- `int(num)`, which refuses more than 4300 digits. -/
def continuationNumber : Option Text → Except LibraryError (Option Nat)
  | none => .ok none
  | some digits =>
      if digits.length ≤ 4300 then .ok (some (decimalValue digits)) else .error .valueError

/-- `rfc2231_params.setdefault(name, []).append(continuation)`. -/
def addContinuation (name : Text) (continuation : Continuation) :
    List (Text × List Continuation) → List (Text × List Continuation)
  | [] => [(name, [continuation])]
  | (other, continuations) :: rest =>
      if other = name then (other, continuations ++ [continuation]) :: rest
      else (other, continuations) :: addContinuation name continuation rest

/-- The order of the tuples `(num, value, encoded)`, all with a number or all without. -/
def Continuation.le (a b : Continuation) : Bool :=
  if a.num ≠ b.num then a.num.getD 0 ≤ b.num.getD 0
  else if a.value ≠ b.value then a.value ≤ b.value
  else !a.encoded || b.encoded

/-- Some continuations have a number and some have none. -/
def isMixed (continuations : List Continuation) : Bool :=
  continuations.any (·.num.isSome) && continuations.any (·.num.isNone)

/-- `continuations.sort()`: a number and `None` cannot be compared. -/
def sortContinuations (continuations : List Continuation) :
    Except LibraryError (List Continuation) :=
  if isMixed continuations then .error .typeError
  else .ok (continuations.mergeSort Continuation.le)

/-- The value of a hexadecimal digit. -/
def hexDigitValue? (c : Nat) : Option Nat :=
  if 0x30 ≤ c ∧ c ≤ 0x39 then some (c - 0x30)
  else if 0x41 ≤ c ∧ c ≤ 0x46 then some (c - 0x37)
  else if 0x61 ≤ c ∧ c ≤ 0x66 then some (c - 0x57)
  else none

/-- `urllib.parse.unquote(s, encoding="latin-1")`. -/
def unquotePercent : Text → Text
  | 0x25 :: high :: low :: rest =>
      match hexDigitValue? high, hexDigitValue? low with
      | some h, some l => (16 * h + l) :: unquotePercent rest
      | _, _ => 0x25 :: unquotePercent (high :: low :: rest)
  | c :: rest => c :: unquotePercent rest
  | [] => []

/-- `decode_rfc2231`. -/
def decodeRfc2231 (s : Text) : Option Text × Option Text × Text :=
  match Text.splitFirst 0x27 s with
  | (charset, some rest) =>
      match Text.splitFirst 0x27 rest with
      | (language, some value) => (some charset, some language, value)
      | (_, none) => (none, none, s)
  | (_, none) => (none, none, s)

/-- The value of a parameter with continuations. -/
def joinContinuations (continuations : List Continuation) : Except LibraryError ParamValue := do
  let sorted ← sortContinuations continuations
  let value := quote (sorted.flatMap fun continuation =>
    if continuation.encoded then unquotePercent continuation.value else continuation.value)
  if sorted.any (·.encoded) then
    let (charset, language, value) := decodeRfc2231 value
    pure (.extended charset language (inQuotes value))
  else pure (.text (inQuotes value))

/-- The first loop of `decode_params`: plain parameters, and continuations by name. -/
def splitContinuations : List (Text × Text) → List (Text × ParamValue) →
    List (Text × List Continuation) →
    Except LibraryError (List (Text × ParamValue) × List (Text × List Continuation))
  | [], plain, continued => .ok (plain, continued)
  | (name, rawValue) :: rest, plain, continued =>
      let value := unquote rawValue
      match matchContinuation name with
      | none =>
          splitContinuations rest (plain ++ [(name, .text (inQuotes (quote value)))]) continued
      | some (word, digits) => do
          let num ← continuationNumber digits
          let continuation := ⟨num, value, name.getLast? = some 0x2A⟩
          splitContinuations rest plain (addContinuation word continuation continued)

/-- `decode_params`, after the first parameter. -/
def decodeParams (params : List (Text × Text)) :
    Except LibraryError (List (Text × ParamValue)) := do
  let (plain, continued) ← splitContinuations params [] []
  let joined ← continued.mapM fun entry => do
    let value ← joinContinuations entry.2
    pure (entry.1, value)
  pure (plain ++ joined)

/-- `_unquotevalue`. -/
def unquoteValue : ParamValue → ParamValue
  | .text value => .text (unquote value)
  | .extended charset language value => .extended charset language (unquote value)

/-- `Message.get_params()[1:]`. -/
def getParams (header : Text) : Except LibraryError (List (Text × ParamValue)) := do
  let params ← decodeParams (rawParams header).tail
  pure (params.map fun param => (param.1, unquoteValue param.2))

/-- The values of the parameters `charset`. -/
def declaredCharsets (params : List (Text × ParamValue)) : List ParamValue :=
  (params.filter fun param => lowerAscii param.1 = Text.ofString "charset").map Prod.snd

example : getParams (Text.ofString "text/html; charset*=utf-8''utf-8") =
    .ok [(Text.ofString "charset",
      .extended (some (Text.ofString "utf-8")) (some []) (Text.ofString "utf-8"))] := by
  decide +kernel

example : getParams (Text.ofString "text/plain; x*=a; x*0=b") = .error .typeError := by
  decide +kernel

end GrowthOs.Acquisition
