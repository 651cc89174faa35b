/-!
# Labels in ASCII letters

A label of a domain name that holds other characters is written with its ASCII characters first,
then, behind a hyphen, the other characters as numbers: for each in rising order how many steps a
counter over all places and code points goes on until the character is put in. A number is written
with its least digit first, in base 36; a threshold says whether a digit is the last, and adapts to
the numbers written before. `encode` writes labels, and `decode?` reads them.
-/

namespace TripClient.Url.Domain.Punycode

/-- Whether a character belongs to ASCII. -/
def isAscii (c : Char) : Bool := c.toNat < 0x80

/-- The character that writes a digit: the letters, then the figures. -/
def digitChar (d : Nat) : Char :=
  if d < 26 then Char.ofNat ('a'.toNat + d) else Char.ofNat ('0'.toNat + (d - 26))

/-- The digit that a character writes. -/
def digit? (c : Char) : Option Nat :=
  let n := c.toNat
  if 'a'.toNat ≤ n ∧ n ≤ 'z'.toNat then some (n - 'a'.toNat)
  else if 'A'.toNat ≤ n ∧ n ≤ 'Z'.toNat then some (n - 'A'.toNat)
  else if '0'.toNat ≤ n ∧ n ≤ '9'.toNat then some (n - '0'.toNat + 26)
  else none

/-- The threshold of the digit at `place`, which counts 36, 72, and so on: a digit below it is the
last. -/
def threshold (bias place : Nat) : Nat :=
  if place ≤ bias then 1 else if bias + 26 ≤ place then 26 else place - bias

/-- A threshold is at least one. -/
theorem one_le_threshold (bias place : Nat) : 1 ≤ threshold bias place := by
  unfold threshold; split <;> (try split) <;> omega

/-- A threshold is at most 26. -/
theorem threshold_le (bias place : Nat) : threshold bias place ≤ 26 := by
  unfold threshold; split <;> (try split) <;> omega

/-- Divides by 35 until at most 455 is left; gives 36 for each division and what is left. -/
def reduce (counted n : Nat) : Nat × Nat :=
  if 455 < n then reduce (counted + 36) (n / 35) else (counted, n)
termination_by n
decreasing_by omega

/-- The bias after a number was written, when `length` characters are in. -/
def adapt (number length : Nat) (isFirst : Bool) : Nat :=
  let n := if isFirst then number / 700 else number / 2
  let (counted, rest) := reduce 0 (n + n / length)
  counted + 36 * rest / (rest + 38)

/-- The digits of a number, from the given place on. -/
def numberDigits (bias place n : Nat) : List Char :=
  let t := threshold bias place
  if n < t then [digitChar n]
  else digitChar (t + (n - t) % (36 - t)) :: numberDigits bias (place + 36) ((n - t) / (36 - t))
termination_by n
decreasing_by
  have h₁ := one_le_threshold bias place
  have h₂ : (n - threshold bias place) / (36 - threshold bias place) ≤ n - threshold bias place :=
    Nat.div_le_self _ _
  omega

/-- How far the writing of a label has come. -/
structure Progress where
  digits : List Char
  /-- Steps of the counter since the last number. -/
  steps : Nat
  bias : Nat
  /-- How many characters are in. -/
  handled : Nat

/-- Passes one character of the label while the characters with code point `n` are put in. -/
def pass (basic n : Nat) (p : Progress) (c : Char) : Progress :=
  if c.toNat < n then { p with steps := p.steps + 1 }
  else if c.toNat = n then
    ⟨p.digits ++ numberDigits p.bias 36 p.steps, 0,
      adapt p.steps (p.handled + 1) (p.handled == basic), p.handled + 1⟩
  else p

/-- Puts in the characters of the given code points, which rise; `reached` is the code point that
the counter is at. -/
def putIn (label : List Char) (basic : Nat) : List Nat → (reached : Nat) → Progress → List Char
  | [], _, p => p.digits
  | n :: rest, reached, p =>
    let p := { p with steps := p.steps + (n - reached) * (p.handled + 1) }
    let p := label.foldl (pass basic n) p
    putIn label basic rest (n + 1) { p with steps := p.steps + 1 }

/-- Puts a number into a rising list, unless it is there. -/
def insertNumber (n : Nat) : List Nat → List Nat
  | [] => [n]
  | m :: rest => if n < m then n :: m :: rest else if n = m then m :: rest else m :: insertNumber n rest

/-- The code points beyond ASCII of a label, rising. -/
def codePoints (label : List Char) : List Nat :=
  (label.filter fun c => !isAscii c).foldr (fun c ns => insertNumber c.toNat ns) []

/-- A label written with ASCII characters. -/
def encode (label : List Char) : List Char :=
  let basic := label.filter isAscii
  (if basic.isEmpty then [] else basic ++ ['-']) ++
    putIn label basic.length (codePoints label) 0x80 ⟨[], 0, 72, basic.length⟩

/-- Reads a number whose digits start at `place`, where the digit counts `weight`, and adds it to
`n`; gives what follows. -/
def readNumber? (bias place weight n : Nat) : List Char → Option (Nat × List Char)
  | [] => none
  | c :: rest => do
    let d ← digit? c
    if d < threshold bias place then return (n + d * weight, rest)
    else readNumber? bias (place + 36) (weight * (36 - threshold bias place)) (n + d * weight) rest

/-- A number takes at least one digit. -/
theorem length_of_readNumber? {bias place weight n m : Nat} {cs rest : List Char}
    (h : readNumber? bias place weight n cs = some (m, rest)) : rest.length < cs.length := by
  induction cs generalizing place weight n with
  | nil => simp [readNumber?] at h
  | cons c cs ih =>
    unfold readNumber? at h
    cases hd : digit? c with
    | none => simp [hd] at h
    | some d =>
      simp only [hd, Option.pure_def, Option.bind_eq_bind, Option.bind_some] at h
      split at h
      · simp only [Option.some.injEq, Prod.mk.injEq] at h
        simp [← h.2]
      · have := ih h
        simp only [List.length_cons]
        omega

/-- Whether a number is the code point of a character. -/
def isCodePoint (n : Nat) : Bool := n < 0xD800 || (0xDFFF < n && n < 0x110000)

/-- Puts the characters that `cs` writes into `label`; the counter is at the code point `n` and at
`place`. -/
def takeOut? (bias n place : Nat) (label cs : List Char) : Option (List Char) :=
  if cs.isEmpty then some label
  else
    match h : readNumber? bias 36 1 place cs with
    | none => none
    | some (count, rest) =>
      let length := label.length + 1
      let n' := n + count / length
      let place' := count % length
      if isCodePoint n' then
        takeOut? (adapt (count - place) length (place == 0)) n' (place' + 1)
          (label.insertIdx place' (Char.ofNat n')) rest
      else none
termination_by cs.length
decreasing_by exact length_of_readNumber? h

/-- The label that ASCII characters write. -/
def decode? (cs : List Char) : Option (List Char) :=
  let behind := (cs.reverse.takeWhile (· != '-')).reverse
  let basic := cs.take (cs.length - behind.length - 1)
  if !cs.all isAscii then none
  else if behind.length < cs.length && !basic.isEmpty then takeOut? 72 0x80 0 basic behind
  else takeOut? 72 0x80 0 [] cs

end TripClient.Url.Domain.Punycode
