import Reparse.Utility.Options

/-!
Digests and checksums of text.

A text is filled up to whole blocks of sixty-four bytes, with its length in bits at the end.  Each
block changes a few words, and the words after the last block are the digest.
-/

namespace Reparse

namespace Utility

namespace Digest

abbrev Words :=
  Array UInt32

def word (words : Words) (place : Nat) : UInt32 :=
  words[place]?.getD 0

def rotateLeft (x : UInt32) (count : UInt32) : UInt32 :=
  (x <<< count) ||| (x >>> (32 - count))

def rotateRight (x : UInt32) (count : UInt32) : UInt32 :=
  (x >>> count) ||| (x <<< (32 - count))

def lowFirst (value : Nat) : (count : Nat) → Bytes
  | 0 => []
  | count + 1 => (value % 256).toUInt8 :: lowFirst (value / 256) count

def highFirst (value count : Nat) : Bytes :=
  (lowFirst value count).reverse

def filled (text : Bytes) (lengthBytes : Nat → Bytes) : Bytes :=
  let zeros := (119 - text.length % 64) % 64
  text ++ 128 :: List.replicate zeros 0 ++ lengthBytes (8 * text.length)

def wordOfHigh (a b c d : UInt8) : UInt32 :=
  (a.toUInt32 <<< 24) ||| (b.toUInt32 <<< 16) ||| (c.toUInt32 <<< 8) ||| d.toUInt32

def wordsOf (make : UInt8 → UInt8 → UInt8 → UInt8 → UInt32) (found : Array UInt32) : Bytes → Words
  | a :: b :: c :: d :: rest => wordsOf make (found.push (make a b c d)) rest
  | _ => found

def overBlocks (change : Words → Words → Words) (all : Words) :
    (count : Nat) → (place : Nat) → Words → Words
  | 0, _, state => state
  | count + 1, place, state =>
      overBlocks change all count (place + 16) (change state (all.extract place (place + 16)))

def digestOf (text : Bytes) (lengthBytes : Nat → Bytes)
    (make : UInt8 → UInt8 → UInt8 → UInt8 → UInt32) (change : Words → Words → Words)
    (start : Words) : Words :=
  let words := wordsOf make #[] (filled text lengthBytes)
  overBlocks change words (words.size / 16) 0 start

def addWords (left right : Words) : Words :=
  ((List.range left.size).map fun place => word left place + word right place).toArray

/-! Digests of a hundred and twenty-eight bits -/

def md5Shifts : Array UInt32 :=
  #[7, 12, 17, 22, 5, 9, 14, 20, 4, 11, 16, 23, 6, 10, 15, 21]

def md5Constants : Words :=
  #[0xd76aa478, 0xe8c7b756, 0x242070db, 0xc1bdceee, 0xf57c0faf, 0x4787c62a, 0xa8304613, 0xfd469501,
    0x698098d8, 0x8b44f7af, 0xffff5bb1, 0x895cd7be, 0x6b901122, 0xfd987193, 0xa679438e, 0x49b40821,
    0xf61e2562, 0xc040b340, 0x265e5a51, 0xe9b6c7aa, 0xd62f105d, 0x02441453, 0xd8a1e681, 0xe7d3fbc8,
    0x21e1cde6, 0xc33707d6, 0xf4d50d87, 0x455a14ed, 0xa9e3e905, 0xfcefa3f8, 0x676f02d9, 0x8d2a4c8a,
    0xfffa3942, 0x8771f681, 0x6d9d6122, 0xfde5380c, 0xa4beea44, 0x4bdecfa9, 0xf6bb4b60, 0xbebfbc70,
    0x289b7ec6, 0xeaa127fa, 0xd4ef3085, 0x04881d05, 0xd9d4d039, 0xe6db99e5, 0x1fa27cf8, 0xc4ac5665,
    0xf4292244, 0x432aff97, 0xab9423a7, 0xfc93a039, 0x655b59c3, 0x8f0ccc92, 0xffeff47d, 0x85845dd1,
    0x6fa87e4f, 0xfe2ce6e0, 0xa3014314, 0x4e0811a1, 0xf7537e82, 0xbd3af235, 0x2ad7d2bb, 0xeb86d391]

def md5Round (block state : Words) (round : Nat) : Words :=
  let a := word state 0
  let b := word state 1
  let c := word state 2
  let d := word state 3
  let (mixed, place) :=
    if round < 16 then ((b &&& c) ||| (~~~b &&& d), round)
    else if round < 32 then ((d &&& b) ||| (~~~d &&& c), (5 * round + 1) % 16)
    else if round < 48 then (b ^^^ c ^^^ d, (3 * round + 5) % 16)
    else (c ^^^ (b ||| ~~~d), 7 * round % 16)
  let sum := a + mixed + word md5Constants round + word block place
  let shift := word md5Shifts (4 * (round / 16) + round % 4)
  #[d, b + rotateLeft sum shift, b, c]

def md5 (text : Bytes) : Bytes :=
  let change := fun (state block : Words) =>
    addWords state ((List.range 64).foldl (md5Round block) state)
  let start : Words := #[0x67452301, 0xefcdab89, 0x98badcfe, 0x10325476]
  let digest :=
    digestOf text (fun bits => lowFirst bits 8) (fun a b c d => wordOfHigh d c b a) change start
  digest.toList.flatMap fun word => lowFirst word.toNat 4

/-! Digests of a hundred and sixty bits -/

def extended (make : Words → Nat → UInt32) (count : Nat) (block : Words) : Words :=
  (List.range (count - 16)).foldl (fun words offset => words.push (make words (offset + 16))) block

def sha1Round (schedule state : Words) (round : Nat) : Words :=
  let a := word state 0
  let b := word state 1
  let c := word state 2
  let d := word state 3
  let (mixed, constant) : UInt32 × UInt32 :=
    if round < 20 then ((b &&& c) ||| (~~~b &&& d), 0x5a827999)
    else if round < 40 then (b ^^^ c ^^^ d, 0x6ed9eba1)
    else if round < 60 then ((b &&& c) ||| (b &&& d) ||| (c &&& d), 0x8f1bbcdc)
    else (b ^^^ c ^^^ d, 0xca62c1d6)
  let sum := rotateLeft a 5 + mixed + word state 4 + constant + word schedule round
  #[sum, a, rotateLeft b 30, c, d]

def sha1 (text : Bytes) : Bytes :=
  let make := fun (words : Words) (place : Nat) =>
    rotateLeft (word words (place - 3) ^^^ word words (place - 8) ^^^ word words (place - 14) ^^^
      word words (place - 16)) 1
  let change := fun (state block : Words) =>
    addWords state ((List.range 80).foldl (sha1Round (extended make 80 block)) state)
  let start : Words := #[0x67452301, 0xefcdab89, 0x98badcfe, 0x10325476, 0xc3d2e1f0]
  let digest := digestOf text (fun bits => highFirst bits 8) wordOfHigh change start
  digest.toList.flatMap fun word => highFirst word.toNat 4

/-! Digests of two hundred and fifty-six bits -/

def sha256Constants : Words :=
  #[0x428a2f98, 0x71374491, 0xb5c0fbcf, 0xe9b5dba5, 0x3956c25b, 0x59f111f1, 0x923f82a4, 0xab1c5ed5,
    0xd807aa98, 0x12835b01, 0x243185be, 0x550c7dc3, 0x72be5d74, 0x80deb1fe, 0x9bdc06a7, 0xc19bf174,
    0xe49b69c1, 0xefbe4786, 0x0fc19dc6, 0x240ca1cc, 0x2de92c6f, 0x4a7484aa, 0x5cb0a9dc, 0x76f988da,
    0x983e5152, 0xa831c66d, 0xb00327c8, 0xbf597fc7, 0xc6e00bf3, 0xd5a79147, 0x06ca6351, 0x14292967,
    0x27b70a85, 0x2e1b2138, 0x4d2c6dfc, 0x53380d13, 0x650a7354, 0x766a0abb, 0x81c2c92e, 0x92722c85,
    0xa2bfe8a1, 0xa81a664b, 0xc24b8b70, 0xc76c51a3, 0xd192e819, 0xd6990624, 0xf40e3585, 0x106aa070,
    0x19a4c116, 0x1e376c08, 0x2748774c, 0x34b0bcb5, 0x391c0cb3, 0x4ed8aa4a, 0x5b9cca4f, 0x682e6ff3,
    0x748f82ee, 0x78a5636f, 0x84c87814, 0x8cc70208, 0x90befffa, 0xa4506ceb, 0xbef9a3f7, 0xc67178f2]

def sha256Round (schedule state : Words) (round : Nat) : Words :=
  let a := word state 0
  let b := word state 1
  let c := word state 2
  let e := word state 4
  let f := word state 5
  let g := word state 6
  let high := rotateRight e 6 ^^^ rotateRight e 11 ^^^ rotateRight e 25
  let chosen := (e &&& f) ^^^ (~~~e &&& g)
  let first := word state 7 + high + chosen + word sha256Constants round + word schedule round
  let low := rotateRight a 2 ^^^ rotateRight a 13 ^^^ rotateRight a 22
  let most := (a &&& b) ^^^ (a &&& c) ^^^ (b &&& c)
  #[first + low + most, a, b, c, word state 3 + first, e, f, g]

def sha256With (start : Words) (text : Bytes) : Bytes :=
  let make := fun (words : Words) (place : Nat) =>
    let early := word words (place - 15)
    let late := word words (place - 2)
    word words (place - 16) + (rotateRight early 7 ^^^ rotateRight early 18 ^^^ (early >>> 3)) +
      word words (place - 7) + (rotateRight late 17 ^^^ rotateRight late 19 ^^^ (late >>> 10))
  let change := fun (state block : Words) =>
    addWords state ((List.range 64).foldl (sha256Round (extended make 64 block)) state)
  let digest := digestOf text (fun bits => highFirst bits 8) wordOfHigh change start
  digest.toList.flatMap fun word => highFirst word.toNat 4

def sha256 : Bytes → Bytes :=
  sha256With #[0x6a09e667, 0xbb67ae85, 0x3c6ef372, 0xa54ff53a, 0x510e527f, 0x9b05688c, 0x1f83d9ab,
    0x5be0cd19]

def sha224 (text : Bytes) : Bytes :=
  let start : Words := #[0xc1059ed8, 0x367cd507, 0x3070dd17, 0xf70e5939, 0xffc00b31, 0x68581511,
    0x64f98fa7, 0xbefa4fa4]
  (sha256With start text).take 28

/-! Checksums -/

def remainderOf (text : Bytes) : UInt32 :=
  let divide := fun (rest : UInt32) (_ : Nat) =>
    if rest &&& 0x80000000 ≠ 0 then (rest <<< 1) ^^^ 0x04c11db7 else rest <<< 1
  let add := fun (rest : UInt32) (b : UInt8) =>
    (List.range 8).foldl divide (rest ^^^ (b.toUInt32 <<< 24))
  let lengthBytes := (lowFirst text.length 8).reverse.dropWhile (· == 0)
  ~~~(lengthBytes.reverse.foldl add (text.foldl add 0))

def roundSum (text : Bytes) : Nat :=
  text.foldl
    (fun (sum : Nat) b => ((sum / 2 + sum % 2 * 0x8000) + b.toNat) % 0x10000)
    0

/-! Programs -/

def hexDigits (bytes : Bytes) : Bytes :=
  let digit := fun (value : UInt8) => if value < 10 then 48 + value else 87 + value
  bytes.flatMap fun b => [digit (b / 16), digit (b % 16)]

def program (digest : Bytes → Bytes) : Call → Job Nat := fun call => do
  let table := OptionTable.ofText "bctwz"
    [("binary", 'b'), ("check", 'c'), ("text", 't'), ("warn", 'w'), ("zero", 'z'), ("tag", 'T')]
  let parsed ← table.read {} call.arguments
  Job.forEach parsed.operands Job.plainly fun file content => do
    let mark := if parsed.has 'b' then 42 else 32
    Job.print (hexDigits (digest content) ++ [32, mark] ++ file ++
      [if parsed.has 'z' then 0 else 10])

def cksum : Call → Job Nat := fun call => do
  let table := OptionTable.ofText "a:cwz" [("algorithm", 'a'), ("check", 'c'), ("zero", 'z')]
  let parsed ← table.read {} call.arguments
  Job.forEach parsed.operands Job.plainly fun file content => do
    let name := if parsed.operands.isEmpty then [] else 32 :: file
    Job.print (textOf (remainderOf content).toNat ++ [32] ++ textOf content.length ++ name ++ [10])

def sum : Call → Job Nat := fun call => do
  let table := OptionTable.ofText "rs" [("sysv", 's')]
  let parsed ← table.read {} call.arguments
  Job.forEach parsed.operands Job.plainly fun file content => do
    let name := if parsed.operands.isEmpty then [] else 32 :: file
    let digits := textOf (roundSum content)
    let digits := List.replicate (5 - digits.length) 48 ++ digits
    let blocks := padLeft 5 (textOf ((content.length + 1023) / 1024))
    Job.print (digits ++ [32] ++ blocks ++ name ++ [10])

end Digest

end Utility

end Reparse
