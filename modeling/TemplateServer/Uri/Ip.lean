import TemplateServer.Uri.Escape

/-!
Numeric hosts: IPv4 addresses, whose parts may be decimal, octal or hexadecimal, and IPv6
addresses in brackets.
-/

namespace TemplateServer

inductive UriError where
  | relative
  | emptyHost
  | invalidDomain
  | invalidDomainCharacter
  | invalidSocket
  | invalidIpv4
  | invalidIpv6
deriving DecidableEq

def UriError.message : UriError → String
  | .relative => "relative URL without a base"
  | .emptyHost => "empty host"
  | .invalidDomain => "invalid international domain name"
  | .invalidDomainCharacter => "invalid domain character"
  | .invalidSocket => "invalid port number"
  | .invalidIpv4 => "invalid IPv4 address"
  | .invalidIpv6 => "invalid IPv6 address"

end TemplateServer

namespace TemplateServer.Uri

open Text

def ofDigits? (base : Nat) (digits : List Char) : Option Nat :=
  digits.foldl
    (fun value c =>
      match value, hexValue? c with
      | some value, some digit => if digit < base then some (value * base + digit) else none
      | _, _ => none)
    (some 0)

/-! ### IPv4 -/

def ipv4Part? : List Char → Option Nat
  | [] => none
  | '0' :: 'x' :: digits => ofDigits? 16 digits
  | '0' :: 'X' :: digits => ofDigits? 16 digits
  | '0' :: digits => ofDigits? 8 digits
  | digits => ofDigits? 10 digits

def domainParts (domain : List Char) : List (List Char) :=
  let parts := splitAt (· == '.') domain
  if parts.getLast? = some [] && 1 < parts.length then parts.dropLast else parts

def endsInNumber (domain : List Char) : Bool :=
  match (domainParts domain).getLast? with
  | none => false
  | some part => (!part.isEmpty && part.all Char.isDigit) || (ipv4Part? part).isSome

/-- The address that the numbers of an IPv4 address write: the last one fills what the others
leave. -/
def ipv4Value? (numbers : List Nat) : Option Nat :=
  match numbers.getLast? with
  | none => none
  | some last =>
    let others := numbers.dropLast
    let room := Nat.pow 256 (4 - others.length)
    if 3 < others.length || others.any (255 < ·) || room ≤ last then
      none
    else
      some (others.foldl (fun value part => value * 256 + part) 0 * room + last)

def decimal (value : Nat) : List Char :=
  Nat.toDigits 10 value

def ipv4Text (value : Nat) : List Char :=
  decimal (value / 0x1000000 % 0x100) ++ '.' :: decimal (value / 0x10000 % 0x100) ++ '.' ::
    decimal (value / 0x100 % 0x100) ++ '.' :: decimal (value % 0x100)

def ipv4 (domain : List Char) : Except UriError (List Char) :=
  match ((domainParts domain).mapM ipv4Part?).bind ipv4Value? with
  | some value => .ok (ipv4Text value)
  | none => .error .invalidIpv4

/-! ### IPv6 -/

/-- One decimal part of an IPv4 address inside an IPv6 address, without a leading zero. -/
def embeddedPart? (digits : List Char) : Option Nat :=
  if digits.isEmpty || !digits.all Char.isDigit || (digits.head? == some '0' && digits.length != 1)
  then none
  else (ofDigits? 10 digits).filter (· ≤ 255)

/-- The numbers that one group of an IPv6 address writes: one, or two if it is an IPv4 address,
which only the last group may be. -/
def ipv6Group? (last : Bool) (group : List Char) : Option (List Nat) :=
  match (splitAt (· == '.') group) with
  | [digits] =>
    if digits.isEmpty || 4 < digits.length then none else (ofDigits? 16 digits).map ([·])
  | [a, b, c, d] =>
    if last then
      match embeddedPart? a, embeddedPart? b, embeddedPart? c, embeddedPart? d with
      | some a, some b, some c, some d => some [a * 256 + b, c * 256 + d]
      | _, _, _, _ => none
    else
      none
  | _ => none

def ipv6Groups? (last : Bool) : List (List Char) → Option (List Nat)
  | [] => some []
  | [group] => ipv6Group? last group
  | group :: rest => do
    let first ← ipv6Group? false group
    let others ← ipv6Groups? last rest
    pure (first ++ others)

def ipv6Split (part : List Char) : List (List Char) :=
  if part.isEmpty then [] else splitAt (· == ':') part

def splitDoubleColon? : List Char → Option (List Char × List Char)
  | ':' :: ':' :: rest => some ([], rest)
  | c :: rest => (splitDoubleColon? rest).map fun parts => (c :: parts.1, parts.2)
  | [] => none

/-- The eight numbers of an IPv6 address. A double colon stands for as many zeros as are
missing, at least one. -/
def ipv6Value? (text : List Char) : Option (List Nat) :=
  match splitDoubleColon? text with
  | none => (ipv6Groups? true (ipv6Split text)).filter fun numbers => numbers.length = 8
  | some (left, right) => do
    let first ← ipv6Groups? false (ipv6Split left)
    let second ← ipv6Groups? true (ipv6Split right)
    let count := first.length + second.length
    if 7 < count then none
    else pure (first ++ List.replicate (8 - count) 0 ++ second)

def leadingZeros (numbers : List Nat) : Nat :=
  (numbers.takeWhile (· == 0)).length

def longestZeros : Nat → List Nat → Nat × Nat
  | _, [] => (0, 0)
  | start, number :: rest =>
    let here := leadingZeros (number :: rest)
    let later := longestZeros (start + 1) rest
    if later.2 ≤ here then (start, here) else later

def ipv6Join (numbers : List Nat) : List Char :=
  [':'].intercalate (numbers.map fun number => Nat.toDigits 16 number)

/-- An IPv6 address in brackets, its longest run of zeros shortened if it has more than one. -/
def ipv6Text (numbers : List Nat) : List Char :=
  let run := longestZeros 0 numbers
  let body :=
    if run.2 < 2 then ipv6Join numbers
    else ipv6Join (numbers.take run.1) ++ ':' :: ':' :: ipv6Join (numbers.drop (run.1 + run.2))
  '[' :: body ++ [']']

def ipv6 (text : List Char) : Except UriError (List Char) :=
  match ipv6Value? text with
  | some numbers => .ok (ipv6Text numbers)
  | none => .error .invalidIpv6

end TemplateServer.Uri
