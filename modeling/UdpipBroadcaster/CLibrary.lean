import Mathlib.Data.List.TakeWhile
import UdpipBroadcaster.Library.ByteStrings

/-!
# The C library functions the program calls

Strings are byte lists without their terminating NUL, `char` arrays are byte
lists of a fixed length.  Integers of type `int` are kept as `Int`; the
conversions that narrow them are written where the source narrows.  The
machine is little-endian.
-/

namespace UdpipBroadcaster

open ByteStrings

/-! ## Strings and character arrays -/

/-- A C string, without its terminating NUL. -/
structure CString where
  bytes : List UInt8
  noNul : 0 ∉ bytes
  deriving DecidableEq

def strlen (text : CString) : Nat :=
  text.bytes.length

/-- A `char` array of `size` elements. -/
structure CharArray (size : Nat) where
  bytes : List UInt8
  length_bytes : bytes.length = size
  deriving DecidableEq

namespace CharArray

variable {size : Nat}

/-- The array `memset` leaves behind when the structure around it is
cleared. -/
def zero (size : Nat) : CharArray size :=
  ⟨List.replicate size 0, List.length_replicate⟩

/-- The string the array holds, read up to its first NUL. -/
def text (array : CharArray size) : CString where
  bytes := array.bytes.takeWhile (· ≠ 0)
  noNul := by
    intro member
    simpa using List.mem_takeWhile_imp member

end CharArray

/-- The string in an array that holds a name padded with NUL. -/
theorem CharArray.text_padded
    {size count : Nat} {array : CharArray size} {name : List UInt8}
    (shape : array.bytes = name ++ List.replicate count 0)
    (noNul : 0 ∉ name) : array.text.bytes = name := by
  have nonzero : ∀ byte ∈ name, decide (byte ≠ 0) = true := by
    intro byte member
    apply decide_eq_true
    intro zero
    exact noNul (zero ▸ member)
  change array.bytes.takeWhile (· ≠ 0) = name
  rw [shape, List.takeWhile_append_of_pos nonzero,
    List.takeWhile_replicate]
  simp

/-- `strncpy`: `count` bytes are written, the string cut or padded with NUL
to that length. -/
def strncpy
    {size : Nat} (dest : CharArray size) (src : CString) (count : Nat) :
    CharArray size where
  bytes :=
    overwrite dest.bytes
      (src.bytes.take count ++ List.replicate (count - strlen src) 0)
  length_bytes := by
    rw [length_overwrite, dest.length_bytes]

/-! ## Numerals -/

/-- `isspace` in the C locale -/
def isspace (byte : UInt8) : Bool :=
  byte = 32 || (9 ≤ byte && byte ≤ 13)

def isdigit (byte : UInt8) : Bool :=
  48 ≤ byte && byte ≤ 57

theorem isspace_eq_false_of_isdigit
    {byte : UInt8} (digit : isdigit byte) : isspace byte = false := by
  simp only [isdigit, Bool.and_eq_true, decide_eq_true_eq,
    UInt8.le_iff_toNat_le] at digit
  have notSpace : byte ≠ 32 := by
    intro same
    subst same
    simp at digit
  have above : ¬ byte ≤ 13 := by
    rw [UInt8.le_iff_toNat_le]
    have fortyEight : (48 : UInt8).toNat = 48 := rfl
    have thirteen : (13 : UInt8).toNat = 13 := rfl
    omega
  simp [isspace, notSpace, above]

/-- The value of the decimal digits at the front of a text. -/
def leadingNatural (text : List UInt8) : Nat :=
  (text.takeWhile isdigit).foldl
    (fun value digit => 10 * value + (digit.toNat - 48)) 0

/-- The decimal integer at the front of a text, after white space and a
sign; zero if there is none. -/
def leadingInteger (text : List UInt8) : Int :=
  let body := text.dropWhile isspace
  if body.head? = some 45 then
    -(leadingNatural body.tail : Int)
  else if body.head? = some 43 then
    leadingNatural body.tail
  else
    leadingNatural body

/-- `atoi`, which is `(int) strtol(nptr, NULL, 10)`: the value saturates in a
`long` and is then narrowed to an `int`. -/
def atoi (nptr : CString) : Int :=
  (max (-2 ^ 63) (min (2 ^ 63 - 1) (leadingInteger nptr.bytes))).bmod
    (2 ^ 32)

/-! ## Byte order -/

/-- The conversion of an `int` argument to `uint16_t`. -/
def toUInt16 (value : Int) : UInt16 :=
  UInt16.ofNat (value % 65536).toNat

theorem toNat_toUInt16_emod (value : Int) :
    ((toUInt16 value).toNat : Int) = value % 65536 := by
  rw [toUInt16, UInt16.toNat_ofNat', Nat.mod_eq_of_lt] <;> omega

/-- A port in range is kept. -/
theorem toNat_toUInt16
    {port : Int} (positive : 1 ≤ port) (inRange : port ≤ 65535) :
    ((toUInt16 port).toNat : Int) = port := by
  rw [toNat_toUInt16_emod]
  exact Int.emod_eq_of_lt (by omega) (by omega)

def htons (hostshort : UInt16) : UInt16 :=
  UInt16.ofNat (hostshort.toNat % 256 * 256 + hostshort.toNat / 256)

def ntohs (netshort : UInt16) : UInt16 :=
  htons netshort

theorem toNat_htons (port : UInt16) :
    (htons port).toNat = port.toNat % 256 * 256 + port.toNat / 256 := by
  have bound : port.toNat < 65536 := port.toNat_lt
  rw [htons, UInt16.toNat_ofNat', Nat.mod_eq_of_lt]
  omega

@[simp]
theorem ntohs_htons (port : UInt16) : ntohs (htons port) = port := by
  have bound : port.toNat < 65536 := port.toNat_lt
  apply UInt16.toNat_inj.mp
  rw [ntohs, toNat_htons, toNat_htons]
  have lowByte :
      (port.toNat % 256 * 256 + port.toNat / 256) % 256 =
        port.toNat / 256 := by
    omega
  have highByte :
      (port.toNat % 256 * 256 + port.toNat / 256) / 256 =
        port.toNat % 256 := by
    omega
  rw [lowByte, highByte]
  omega

def htonl (hostlong : UInt32) : UInt32 :=
  UInt32.ofNat
    (hostlong.toNat % 256 * 16777216 +
      hostlong.toNat / 256 % 256 * 65536 +
      hostlong.toNat / 65536 % 256 * 256 +
      hostlong.toNat / 16777216)

/-! ## Addresses -/

def inaddrAny : UInt32 := 0
def inaddrBroadcast : UInt32 := 0xFFFFFFFF

/-- `INADDR_NONE`, what `inet_addr` returns on a malformed text. -/
def inaddrNone : UInt32 := 0xFFFFFFFF

/-- The value of a digit in a base up to sixteen. -/
def digitValue (base : Nat) (byte : UInt8) : Option Nat :=
  let value :=
    if isdigit byte then byte.toNat - 48
    else if 97 ≤ byte ∧ byte ≤ 102 then byte.toNat - 87
    else if 65 ≤ byte ∧ byte ≤ 70 then byte.toNat - 55
    else base
  if value < base then some value else none

/-- A nonempty numeral in the given base. -/
def numeral (base : Nat) (digits : List UInt8) : Option Nat :=
  if digits = [] then none
  else
    digits.foldlM
      (fun value byte => (digitValue base byte).map (base * value + ·)) 0

/-- One part of an address: hexadecimal after `0x`, octal after a further
leading zero, otherwise decimal. -/
def inetPart (part : List UInt8) : Option Nat :=
  if part.take 2 = [48, 120] ∨ part.take 2 = [48, 88] then
    numeral 16 (part.drop 2)
  else if part.head? = some 48 ∧ part ≠ [48] then
    numeral 8 part.tail
  else
    numeral 10 part

/-- The number one to four parts denote, the last filling the bytes that
remain. -/
def inetCombine : List Nat → Option Nat
  | [a] => if a < 2 ^ 32 then some a else none
  | [a, b] =>
      if a < 256 ∧ b < 2 ^ 24 then some (a * 2 ^ 24 + b) else none
  | [a, b, c] =>
      if a < 256 ∧ b < 256 ∧ c < 2 ^ 16 then
        some (a * 2 ^ 24 + b * 2 ^ 16 + c)
      else none
  | [a, b, c, d] =>
      if a < 256 ∧ b < 256 ∧ c < 256 ∧ d < 256 then
        some (a * 2 ^ 24 + b * 2 ^ 16 + c * 2 ^ 8 + d)
      else none
  | _ => none

/-- `inet_addr`, in network byte order.  The text ends at the first white
space. -/
def inetAddr (cp : CString) : UInt32 :=
  let parts := (cp.bytes.takeWhile (!isspace ·)).splitOn 46
  match parts.mapM inetPart >>= inetCombine with
  | some value => htonl (UInt32.ofNat value)
  | none => inaddrNone

/-- The decimal text of an octet. -/
def octetText (octet : UInt8) : List UInt8 :=
  let value := octet.toNat
  let digit (value : Nat) := UInt8.ofNat (48 + value % 10)
  if value < 10 then [digit value]
  else if value < 100 then [digit (value / 10), digit value]
  else [digit (value / 100), digit (value / 10), digit value]

set_option maxRecDepth 10000 in
theorem inetPart_octetText (octet : UInt8) :
    inetPart (octetText octet) = some octet.toNat := by
  have all : ∀ value : Fin 256,
      inetPart (octetText (UInt8.ofFin value)) = some value.val := by
    decide
  exact all octet.toFin

private theorem isdigit_decimal (value : Nat) :
    isdigit (UInt8.ofNat (48 + value % 10)) := by
  have all : ∀ digit < 10, isdigit (UInt8.ofNat (48 + digit)) := by
    decide
  exact all (value % 10) (Nat.mod_lt value (by decide))

theorem isdigit_of_mem_octetText
    (octet byte : UInt8) (member : byte ∈ octetText octet) :
    isdigit byte := by
  obtain ⟨value, rfl⟩ :
      ∃ value, byte = UInt8.ofNat (48 + value % 10) := by
    rw [octetText] at member
    split at member
    · exact ⟨_, List.mem_singleton.mp member⟩
    · split at member
      · rcases List.mem_cons.mp member with tens | ones
        · exact ⟨_, tens⟩
        · exact ⟨_, List.mem_singleton.mp ones⟩
      · rcases List.mem_cons.mp member with hundreds | rest
        · exact ⟨_, hundreds⟩
        · rcases List.mem_cons.mp rest with tens | ones
          · exact ⟨_, tens⟩
          · exact ⟨_, List.mem_singleton.mp ones⟩
  exact isdigit_decimal value

private theorem mem_dottedQuad
    {a b c d : UInt8} {byte : UInt8}
    (member : byte ∈ [46].intercalate
      [octetText a, octetText b, octetText c, octetText d]) :
    byte = 46 ∨ isdigit byte := by
  simp only [List.intercalate_cons_cons, List.intercalate_singleton,
    List.mem_append, List.mem_singleton] at member
  rcases member with (first | dot) | (second | dot) | (third | dot) | fourth
  · exact .inr (isdigit_of_mem_octetText a byte first)
  · exact .inl dot
  · exact .inr (isdigit_of_mem_octetText b byte second)
  · exact .inl dot
  · exact .inr (isdigit_of_mem_octetText c byte third)
  · exact .inl dot
  · exact .inr (isdigit_of_mem_octetText d byte fourth)

/-- The dotted-quad text `a.b.c.d`. -/
def dottedQuad (a b c d : UInt8) : CString where
  bytes :=
    [46].intercalate [octetText a, octetText b, octetText c, octetText d]
  noNul := by
    intro member
    rcases mem_dottedQuad member with dot | digit
    · exact absurd dot (by decide)
    · exact absurd digit (by decide)

/-- The address a dotted quad denotes, in network byte order. -/
def quadAddress (a b c d : UInt8) : UInt32 :=
  htonl (UInt32.ofNat
    (a.toNat * 2 ^ 24 + b.toNat * 2 ^ 16 + c.toNat * 2 ^ 8 + d.toNat))

/-- `inet_addr` reads every dotted quad back. -/
theorem inetAddr_dottedQuad (a b c d : UInt8) :
    inetAddr (dottedQuad a b c d) = quadAddress a b c d := by
  have noSpace :
      ∀ byte ∈ (dottedQuad a b c d).bytes, (!isspace byte) = true := by
    intro byte member
    rcases mem_dottedQuad member with dot | digit
    · rw [dot]
      decide
    · rw [isspace_eq_false_of_isdigit digit, Bool.not_false]
  have noDot (octet : UInt8) : 46 ∉ octetText octet := by
    intro member
    exact absurd (isdigit_of_mem_octetText octet 46 member) (by decide)
  have parts :
      (dottedQuad a b c d).bytes.splitOn 46 =
        [octetText a, octetText b, octetText c, octetText d] := by
    apply List.splitOn_intercalate
    · simp [noDot]
    · simp
  simp only [inetAddr, List.takeWhile_eq_self_iff.mpr noSpace, parts,
    List.mapM_cons, List.mapM_nil, inetPart_octetText]
  have fits (octet : UInt8) : octet.toNat < 256 := octet.toNat_lt
  simp [inetCombine, quadAddress, fits]

end UdpipBroadcaster
