import StorageBroker.Shell.Utility.Lines

/-! # Digests

Numbers that tell contents apart: check sums and hashes, how they are written, and the commands that
write and check them. -/

set_option autoImplicit false

namespace StorageBroker.Shell

open Act

/-! ## Hashes -/

/-- A word with its bits moved to the left, where those that go out come in again at the right. -/
def rotated (x : UInt32) (n : UInt32) : UInt32 := (x <<< n) ||| (x >>> (32 - n))

/-- A message with a bit after it, zeros, and its length in bits in eight bytes; it fills blocks of 64
bytes. -/
def paddedMessage (bigEnd : Bool) (message : List UInt8) : List UInt8 :=
  let size := message.length
  let zeros := (119 - size % 64) % 64
  let bits := (List.range 8).map fun n => UInt8.ofNat ((size * 8) >>> (8 * n))
  message ++ [0x80] ++ List.replicate zeros 0 ++ (if bigEnd then bits.reverse else bits)

def wordOf (bigEnd : Bool) (bytes : List UInt8) : UInt32 :=
  (if bigEnd then bytes else bytes.reverse).foldl (fun n byte => n * 256 + byte.toUInt32) 0

def blocksOf {α : Type} (size : Nat) : (fuel : Nat) → List α → List (List α)
  | 0, _ => []
  | _ + 1, [] => []
  | fuel + 1, items => items.take size :: blocksOf size fuel (items.drop size)

def messageBlocks (bigEnd : Bool) (message : List UInt8) : List (Array UInt32) :=
  let padded := paddedMessage bigEnd message
  (blocksOf 64 (padded.length + 1) padded).map fun block =>
    ((blocksOf 4 17 block).map (wordOf bigEnd)).toArray

/-- The bytes of words as digits in base 16. -/
def hexWords (bigEnd : Bool) (words : List UInt32) : String :=
  let hexByte (n : UInt32) : List Char :=
    let digits := Nat.toDigits 16 (n.toNat % 256)
    List.replicate (2 - digits.length) '0' ++ digits
  String.ofList (words.flatMap fun (w : UInt32) =>
    let bytes : List UInt32 := [w >>> 24, w >>> 16, w >>> 8, w]
    (if bigEnd then bytes else bytes.reverse).flatMap hexByte)

/-- The words that MD5 adds in its rounds. -/
def md5Words : Array UInt32 := #[0xd76aa478, 0xe8c7b756, 0x242070db, 0xc1bdceee, 0xf57c0faf, 0x4787c62a,
   0xa8304613, 0xfd469501, 0x698098d8, 0x8b44f7af, 0xffff5bb1, 0x895cd7be,
   0x6b901122, 0xfd987193, 0xa679438e, 0x49b40821, 0xf61e2562, 0xc040b340,
   0x265e5a51, 0xe9b6c7aa, 0xd62f105d, 0x02441453, 0xd8a1e681, 0xe7d3fbc8,
   0x21e1cde6, 0xc33707d6, 0xf4d50d87, 0x455a14ed, 0xa9e3e905, 0xfcefa3f8,
   0x676f02d9, 0x8d2a4c8a, 0xfffa3942, 0x8771f681, 0x6d9d6122, 0xfde5380c,
   0xa4beea44, 0x4bdecfa9, 0xf6bb4b60, 0xbebfbc70, 0x289b7ec6, 0xeaa127fa,
   0xd4ef3085, 0x04881d05, 0xd9d4d039, 0xe6db99e5, 0x1fa27cf8, 0xc4ac5665,
   0xf4292244, 0x432aff97, 0xab9423a7, 0xfc93a039, 0x655b59c3, 0x8f0ccc92,
   0xffeff47d, 0x85845dd1, 0x6fa87e4f, 0xfe2ce6e0, 0xa3014314, 0x4e0811a1,
   0xf7537e82, 0xbd3af235, 0x2ad7d2bb, 0xeb86d391]

/-- How far MD5 moves bits in its rounds. -/
def md5Shifts : Array UInt32 :=
  #[7, 12, 17, 22, 5, 9, 14, 20, 4, 11, 16, 23, 6, 10, 15, 21]

def md5Round (block : Array UInt32) (s : UInt32 × UInt32 × UInt32 × UInt32) (n : Nat) :
    UInt32 × UInt32 × UInt32 × UInt32 :=
  let (a, b, c, d) := s
  let (f, g) : UInt32 × Nat :=
    if n < 16 then ((b &&& c) ||| (~~~b &&& d), n)
    else if n < 32 then ((d &&& b) ||| (~~~d &&& c), (5 * n + 1) % 16)
    else if n < 48 then (b ^^^ c ^^^ d, (3 * n + 5) % 16)
    else (c ^^^ (b ||| ~~~d), (7 * n) % 16)
  let sum := f + a + (md5Words[n]?).getD 0 + (block[g]?).getD 0
  (d, b + rotated sum ((md5Shifts[n / 16 * 4 + n % 4]?).getD 0), b, c)

def md5 (message : List UInt8) : String :=
  let (a, b, c, d) := (messageBlocks false message).foldl (fun (a, b, c, d) block =>
    let (w, x, y, z) := (List.range 64).foldl (md5Round block) (a, b, c, d)
    (a + w, b + x, c + y, d + z))
    ((0x67452301, 0xefcdab89, 0x98badcfe, 0x10325476) : UInt32 × UInt32 × UInt32 × UInt32)
  hexWords false [a, b, c, d]

/-- The words of a block of SHA-1 with those that follow from them. -/
def sha1Words (block : Array UInt32) : Array UInt32 :=
  (List.range 64).foldl (fun words n =>
    let word (k : Nat) : UInt32 := (words[n + 16 - k]?).getD 0
    words.push (rotated (word 3 ^^^ word 8 ^^^ word 14 ^^^ word 16) 1)) block

def sha1 (message : List UInt8) : String :=
  let start : List UInt32 := [0x67452301, 0xefcdab89, 0x98badcfe, 0x10325476, 0xc3d2e1f0]
  let round (words : Array UInt32) (s : List UInt32) (n : Nat) : List UInt32 :=
    match s with
    | [a, b, c, d, e] =>
      let (f, k) : UInt32 × UInt32 :=
        if n < 20 then ((b &&& c) ||| (~~~b &&& d), 0x5a827999)
        else if n < 40 then (b ^^^ c ^^^ d, 0x6ed9eba1)
        else if n < 60 then ((b &&& c) ||| (b &&& d) ||| (c &&& d), 0x8f1bbcdc)
        else (b ^^^ c ^^^ d, 0xca62c1d6)
      [rotated a 5 + f + e + k + (words[n]?).getD 0, a, rotated b 30, c, d]
    | _ => s
  hexWords true ((messageBlocks true message).foldl (fun s block =>
    List.zipWith (· + ·) s ((List.range 80).foldl (round (sha1Words block)) s)) start)

/-- The words that SHA-256 adds in its rounds. -/
def sha256Constants : Array UInt32 := #[0x428a2f98, 0x71374491, 0xb5c0fbcf, 0xe9b5dba5, 0x3956c25b, 0x59f111f1,
   0x923f82a4, 0xab1c5ed5, 0xd807aa98, 0x12835b01, 0x243185be, 0x550c7dc3,
   0x72be5d74, 0x80deb1fe, 0x9bdc06a7, 0xc19bf174, 0xe49b69c1, 0xefbe4786,
   0x0fc19dc6, 0x240ca1cc, 0x2de92c6f, 0x4a7484aa, 0x5cb0a9dc, 0x76f988da,
   0x983e5152, 0xa831c66d, 0xb00327c8, 0xbf597fc7, 0xc6e00bf3, 0xd5a79147,
   0x06ca6351, 0x14292967, 0x27b70a85, 0x2e1b2138, 0x4d2c6dfc, 0x53380d13,
   0x650a7354, 0x766a0abb, 0x81c2c92e, 0x92722c85, 0xa2bfe8a1, 0xa81a664b,
   0xc24b8b70, 0xc76c51a3, 0xd192e819, 0xd6990624, 0xf40e3585, 0x106aa070,
   0x19a4c116, 0x1e376c08, 0x2748774c, 0x34b0bcb5, 0x391c0cb3, 0x4ed8aa4a,
   0x5b9cca4f, 0x682e6ff3, 0x748f82ee, 0x78a5636f, 0x84c87814, 0x8cc70208,
   0x90befffa, 0xa4506ceb, 0xbef9a3f7, 0xc67178f2]

/-- The words of a block of SHA-256 with those that follow from them. -/
def sha256Words (block : Array UInt32) : Array UInt32 :=
  let right (x n : UInt32) : UInt32 := rotated x (32 - n)
  (List.range 48).foldl (fun words n =>
    let word (k : Nat) : UInt32 := (words[n + 16 - k]?).getD 0
    let s0 := right (word 15) 7 ^^^ right (word 15) 18 ^^^ (word 15 >>> 3)
    let s1 := right (word 2) 17 ^^^ right (word 2) 19 ^^^ (word 2 >>> 10)
    words.push (word 16 + s0 + word 7 + s1)) block

def sha256 (message : List UInt8) : String :=
  let right (x n : UInt32) : UInt32 := rotated x (32 - n)
  let start : List UInt32 := [0x6a09e667, 0xbb67ae85, 0x3c6ef372, 0xa54ff53a, 0x510e527f,
    0x9b05688c, 0x1f83d9ab, 0x5be0cd19]
  let round (words : Array UInt32) (s : List UInt32) (n : Nat) : List UInt32 :=
    match s with
    | [a, b, c, d, e, f, g, h] =>
      let s1 := right e 6 ^^^ right e 11 ^^^ right e 25
      let choice := (e &&& f) ^^^ (~~~e &&& g)
      let first := h + s1 + choice + (sha256Constants[n]?).getD 0 + (words[n]?).getD 0
      let s0 := right a 2 ^^^ right a 13 ^^^ right a 22
      let majority := (a &&& b) ^^^ (a &&& c) ^^^ (b &&& c)
      [first + s0 + majority, a, b, c, d + first, e, f, g]
    | _ => s
  hexWords true ((messageBlocks true message).foldl (fun s block =>
    List.zipWith (· + ·) s ((List.range 64).foldl (round (sha256Words block)) s)) start)

/-! ## Commands for hashes -/

/-- The lines of a list of hashes: each hash with the name after it. -/
def listedHashes (text : String) : List (String × String) :=
  (linesOf text).filterMap fun line =>
    let hash := line.toList.takeWhile fun c => c ≠ ' '
    match line.toList.drop hash.length with
    | ' ' :: _ :: name => some (String.ofList hash, String.ofList name)
    | _ => none

def hashing (command : String) (hash : List UInt8 → String) : Utility :=
  (OptionTable.mk "cbtqwz" "" "" [("check", 'c'), ("quiet", 'q'), ("status", 'z'),
    ("binary", 'b'), ("text", 't'), ("warn", 'w')] true).command command 1 fun given => do
  let names := if given.operands.isEmpty then ["-"] else given.operands
  if !given.has 'c' then
    return ← forEach names fun name => do
      match ← readOperand name with
      | .ok content =>
        print (hash content.toUTF8.toList ++ "  " ++ name ++ "\n")
        return none
      | .error e => return some (command ++ ": " ++ name ++ ": " ++ reason e)
  let (status, found) ← gather command names
  let rows := found.flatMap fun (_, content) => listedHashes content
  let failed ← rows.filterM fun (expected, name) => do
    let say (text : String) : Act Unit :=
      if given.has 'z' then return () else print (name ++ ": " ++ text ++ "\n")
    match ← readOperand name with
    | .ok content =>
      let isSame := hash content.toUTF8.toList = expected.toLower
      if !isSame then say "FAILED" else if !given.has 'q' then say "OK"
      return !isSame
    | .error e =>
      complain (command ++ ": " ++ name ++ ": " ++ reason e)
      say "FAILED open or read"
      return true
  if !failed.isEmpty && !given.has 'z' then
    complain (command ++ ": WARNING: " ++ toString failed.length ++ " computed checksum" ++
      (if failed.length = 1 then "" else "s") ++ " did NOT match")
  return if failed.isEmpty && !rows.isEmpty then status else 1

def checked (crc : UInt32) (byte : UInt8) : UInt32 :=
  (List.range 8).foldl (fun crc _ =>
    if crc &&& 0x80000000 = 0 then crc <<< 1 else (crc <<< 1) ^^^ 0x04c11db7)
    (crc ^^^ (byte.toUInt32 <<< 24))

/-- The bytes of a number without those that are zero at its upper end, the lowest first. -/
def lowBytes : (fuel : Nat) → Nat → List UInt8
  | 0, _ => []
  | fuel + 1, n => if n = 0 then [] else UInt8.ofNat n :: lowBytes fuel (n / 256)

def cksum : Utility := (OptionTable.ofLetters "").command "cksum" 1 fun given => do
  let (status, found) ← gather "cksum" given.operands
  for (name, content) in found do
    let bytes := content.toUTF8.toList
    let crc := ~~~((bytes ++ lowBytes 8 bytes.length).foldl checked 0)
    print (toString crc.toNat ++ " " ++ toString bytes.length ++
      (if name.isEmpty then "" else " " ++ name) ++ "\n")
  return status

/-! ## Text for bytes -/

def base64Signs : Array Char :=
  "ABCDEFGHIJKLMNOPQRSTUVWXYZabcdefghijklmnopqrstuvwxyz0123456789+/".toList.toArray

/-- Bytes in base 64, three of them in four signs. -/
def base64Encoded : List UInt8 → List Char
  | a :: b :: c :: rest =>
    let n := a.toNat * 65536 + b.toNat * 256 + c.toNat
    sign (n / 262144) :: sign (n / 4096) :: sign (n / 64) :: sign n :: base64Encoded rest
  | [a, b] =>
    let n := a.toNat * 65536 + b.toNat * 256
    [sign (n / 262144), sign (n / 4096), sign (n / 64), '=']
  | [a] =>
    let n := a.toNat * 65536
    [sign (n / 262144), sign (n / 4096), '=', '=']
  | [] => []
where
  /-- The sign of a number. -/
  sign (n : Nat) : Char := (base64Signs[n % 64]?).getD '='

/-- The bytes that signs of base 64 stand for, and whether all of them are such signs. -/
def base64Decoded : List Char → List UInt8 × Bool
  | a :: b :: '=' :: '=' :: _ =>
    match value? a, value? b with
    | some x, some y => ([UInt8.ofNat (x * 4 + y / 16)], true)
    | _, _ => ([], false)
  | a :: b :: c :: '=' :: _ =>
    match value? a, value? b, value? c with
    | some x, some y, some z => ([UInt8.ofNat (x * 4 + y / 16), UInt8.ofNat (y * 16 + z / 4)], true)
    | _, _, _ => ([], false)
  | a :: b :: c :: d :: rest =>
    match value? a, value? b, value? c, value? d with
    | some x, some y, some z, some w =>
      let (more, sound) := base64Decoded rest
      (UInt8.ofNat (x * 4 + y / 16) :: UInt8.ofNat (y * 16 + z / 4) :: UInt8.ofNat (z * 64 + w) ::
        more, sound)
    | _, _, _, _ => ([], false)
  | [] => ([], true)
  | _ => ([], false)
where
  /-- The number of a sign. -/
  value? (c : Char) : Option Nat := base64Signs.toList.idxOf? c

/-- The text that bytes encode; those that encode none stand for the mark of what is unknown. -/
def textOfBytes (bytes : List UInt8) : String :=
  let array := ByteArray.mk bytes.toArray
  match String.fromUTF8? array with
  | some text => text
  | none => String.ofList (bytes.map fun b => if b < 128 then Char.ofNat b.toNat else '\ufffd')

/-- Writes files in base 64, or what they stand for. -/
def base64 : Utility :=
  (OptionTable.mk "di" "w" "" [("decode", 'd'), ("wrap", 'w'), ("ignore-garbage", 'i')]
    true).command "base64" 1 fun given => do
  let name := given.operands.headD "-"
  match ← readOperand name with
  | .error e => failing 1 ("base64: " ++ name ++ ": " ++ reason e)
  | .ok content =>
    if given.has 'd' then
      let signs := content.toList.filter fun c =>
        c ≠ '\n' && (!given.has 'i' || c = '=' || c ∈ base64Signs)
      let (bytes, sound) := base64Decoded signs
      print (textOfBytes bytes)
      if sound then return 0 else failing 1 "base64: invalid input"
    else
      let width := ((given.value? 'w').bind String.toNat?).getD 76
      let signs := base64Encoded content.toUTF8.toList
      if width = 0 then print (String.ofList signs)
      else print (ofLines ((blocksOf width (signs.length + 1) signs).map String.ofList))
      return 0

/-! ## Bytes as numbers -/

/-- How a dump shows units of bytes: their size, and the text of each. -/
structure DumpForm where
  size : Nat
  width : Nat
  text : List UInt8 → String

def numberOfBytes (bytes : List UInt8) : Nat := bytes.foldr (fun b n => n * 256 + b.toNat) 0

def zeroFilled (width : Nat) (digits : List Char) : String :=
  String.ofList (List.replicate (width - digits.length) '0' ++ digits)

/-- A byte as a character, an escape, or digits in base 8. -/
def dumpCharacter (bytes : List UInt8) : String :=
  let n := numberOfBytes bytes
  let named : List (Nat × String) :=
    [(0, "\\0"), (7, "\\a"), (8, "\\b"), (9, "\\t"), (10, "\\n"), (11, "\\v"), (12, "\\f"),
     (13, "\\r")]
  match named.lookup n with
  | some text => text
  | none => if 32 ≤ n && n < 127 then (Char.ofNat n).toString else zeroFilled 3 (Nat.toDigits 8 n)

def dumpForm? (type : String) : Option DumpForm :=
  let size := ((String.ofList (type.toList.drop 1)).toNat?).getD 4
  let digitsIn (base width : Nat) (bytes : List UInt8) : String :=
    zeroFilled width (Nat.toDigits base (numberOfBytes bytes))
  let decimalWidth := if size = 1 then 3 else if size = 2 then 5 else if size = 4 then 10 else 20
  let octalWidth := (size * 8 + 2) / 3
  match type.toList.head? with
  | some 'x' => some ⟨size, 2 * size, digitsIn 16 (2 * size)⟩
  | some 'o' => some ⟨size, octalWidth, digitsIn 8 octalWidth⟩
  | some 'u' => some ⟨size, decimalWidth, fun bytes => toString (numberOfBytes bytes)⟩
  | some 'd' => some ⟨size, decimalWidth + 1, fun bytes =>
      let n := numberOfBytes bytes
      let bound := 1 <<< (8 * size)
      toString (if 2 * n < bound then (n : Int) else (n : Int) - bound)⟩
  | some 'c' => some ⟨1, 3, dumpCharacter⟩
  | _ => none

def od : Utility :=
  (OptionTable.mk "cxbdov" "AtNjw" "" [("address-radix", 'A'), ("format", 't'),
    ("read-bytes", 'N'), ("skip-bytes", 'j'), ("width", 'w')] true).command "od" 1 fun given => do
  let (status, found) ← gather "od" given.operands
  let bytes := (String.join (found.map Prod.snd)).toUTF8.toList
  let number (letter : Char) : Option Nat := (given.value? letter).bind String.toNat?
  let skipped := (number 'j').getD 0
  let bytes := bytes.drop skipped
  let bytes := match number 'N' with
    | some n => bytes.take n
    | none => bytes
  let types := given.options.filterMap fun (letter, value) =>
    match letter with
    | 't' => some value
    | 'c' => some "c"
    | 'x' => some "x2"
    | 'b' => some "o1"
    | 'd' => some "u2"
    | 'o' => some "o2"
    | _ => none
  let forms := (if types.isEmpty then ["o2"] else types).filterMap dumpForm?
  let width := (number 'w').getD 16
  let address (n : Nat) : String :=
    match given.value? 'A' with
    | some "n" => ""
    | some "d" => zeroFilled 7 (Nat.toDigits 10 n)
    | some "x" => zeroFilled 6 (Nat.toDigits 16 n)
    | _ => zeroFilled 7 (Nat.toDigits 8 n)
  let rows := blocksOf width (bytes.length + 1) bytes
  let shown (row : List UInt8) (form : DumpForm) : String :=
    String.join ((blocksOf form.size (row.length + 1) row).map fun unit =>
      " " ++ rightAligned form.width (form.text unit))
  let lines := rows.zipIdx.map fun (row, n) =>
    let first := address (skipped + n * width)
    let texts := forms.map (shown row)
    (row, "\n".intercalate (texts.zipIdx.map fun (text, k) =>
      (if k = 0 then first else "".pushn ' ' first.length) ++ text))
  let rec brief : (last : Option (List UInt8)) → (marked : Bool) → List (List UInt8 × String) →
      List String
    | _, _, [] => []
    | last, marked, (row, line) :: rest =>
      if last = some row && !given.has 'v' && !rest.isEmpty then
        (if marked then [] else ["*"]) ++ brief last true rest
      else line :: brief (some row) false rest
  let ending := address (skipped + bytes.length)
  print (ofLines (brief none false lines ++ if ending.isEmpty then [] else [ending]))
  return status

def dd : Utility := fun arguments => do
  let operand (name : String) : Option String :=
    (arguments.filterMap fun a =>
      match cutAtEquals a with
      | (key, some value) => if key = name then some value else none
      | _ => none).getLast?
  let known := ["if", "of", "bs", "ibs", "obs", "count", "skip", "seek", "conv", "status", "iflag",
    "oflag", "cbs"]
  match arguments.find? fun a => (cutAtEquals a).1 ∉ known with
  | some a => misused "dd" 1 ("unrecognized operand '" ++ a ++ "'")
  | none =>
    let number (name : String) : Option Nat := (operand name).bind Portion.ofText?.sizeText?
    let size := max 1 ((number "bs" <|> number "ibs").getD 512)
    let conversions := ((operand "conv").getD "").splitOn ","
    let source ← match operand "if" with
      | some path => readPath path
      | none => do pure (Except.ok (← readAll))
    match source with
    | .error e =>
      failing 1 ("dd: failed to open '" ++ (operand "if").getD "" ++ "': " ++ reason e)
    | .ok content =>
      let rest := dropBytes ((number "skip").getD 0 * size) content.toList
      let taken := match number "count" with
        | some n => takeBytes (n * size) rest
        | none => rest
      let made := if "ucase" ∈ conversions then taken.map Char.toUpper
        else if "lcase" ∈ conversions then taken.map Char.toLower else taken
      let text := String.ofList made
      let result ← match operand "of" with
        | none => do
          print text
          pure none
        | some path =>
          let seek := (number "seek").getD 0 * size
          if seek = 0 && "notrunc" ∉ conversions then writePath path false text
          else changeFiles fun files here => files.update here path fun before =>
            let front := takeBytes seek before.toList
            let missing := seek - (String.ofList front).utf8ByteSize
            let after := if "notrunc" ∈ conversions then
                dropBytes (seek + text.utf8ByteSize) before.toList else []
            String.ofList (front ++ List.replicate missing '\x00' ++ made ++ after)
      match result with
      | some e =>
        failing 1 ("dd: failed to open '" ++ (operand "of").getD "" ++ "': " ++ reason e)
      | none =>
        let bytes := text.utf8ByteSize
        let records := toString (bytes / size) ++ "+" ++ (if bytes % size = 0 then "0" else "1")
        if operand "status" ≠ some "none" then
          complain (records ++ " records in\n" ++ records ++ " records out")
          if operand "status" ≠ some "noxfer" then
            complain (toString bytes ++ " bytes copied, 0 s, 0 B/s")
        return 0

end StorageBroker.Shell
