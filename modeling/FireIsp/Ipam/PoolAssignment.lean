import FireIsp.Base.Fallible
import FireIsp.Base.Ipv6
import Mathlib.Data.Int.Bitwise

/-!
# Pool assignment

The IPv6 half of `poolAssignmentService`: texts become numbers of 128 bits and back, and
`assignNextFreeIpv6Prefix` takes the first block of the pool that its tests find free. A step that
throws has no value. Texts are lists of characters.
-/

namespace FireIsp.Ipam

open Fallible

/-- `text.trim()`. -/
def trim (text : List Char) : List Char :=
  ((text.dropWhile Text.isSpace).reverse.dropWhile Text.isSpace).reverse

/-- Put characters before the first part. -/
def prepend (text : List Char) : List (List Char) → List (List Char)
  | [] => [text]
  | part :: parts => (text ++ part) :: parts

/-- `text.split('::')`. -/
def splitPairs : List Char → List (List Char)
  | [] => [[]]
  | ':' :: ':' :: rest => [] :: splitPairs rest
  | c :: rest => prepend [c] (splitPairs rest)

/-- `half ? half.split(':') : []`. -/
def halfGroups (half : List Char) : List (List Char) :=
  if half.isEmpty then [] else half.splitOn ':'

/-- `expanded.split(':')`: the groups of an address, with zeros for `::`. -/
def expandedGroups (ip : List Char) : Option (List (List Char)) :=
  match splitPairs ip with
  | left :: right :: _ =>
    let left := halfGroups left
    let right := halfGroups right
    if left.length + right.length ≤ 8 then
      some (left ++ List.replicate (8 - left.length - right.length) ['0', '0', '0', '0'] ++ right)
    else none
  | _ => some (ip.splitOn ':')

/-- `(acc << 16n) | BigInt(parseInt(group || '0', 16))`. -/
def addGroup (acc : Int) (group : List Char) : Option Int := do
  let value ← Numeral.parseInt 16 (if group.isEmpty then ['0'] else group)
  pure (Int.lor (acc <<< (16 : Int)) value)

def ipv6ToBigInt (ip : List Char) : Option Int := do
  (← expandedGroups ip).foldlM addGroup 0

/-- `padStart(4, '0')`. -/
def padStart (text : List Char) : List Char := List.replicate (4 - text.length) '0' ++ text

/-- Hexadecimal groups of a number, the last `count` of them. -/
def hexGroups : Nat → Int → List (List Char)
  | 0, _ => []
  | count + 1, remaining =>
    hexGroups count (remaining >>> (16 : Int)) ++
      [padStart (Nat.toDigits 16 (Int.land remaining 0xffff).toNat)]

def bigIntToIpv6 (n : Int) : List Char := List.intercalate [':'] (hexGroups 8 n)

/-- `mask` of a prefix with that many host bits. -/
def networkMask (hostBits : Int) : Int :=
  if hostBits = 128 then 0
  else Int.land (Int.lnot ((1 <<< hostBits) - 1)) ((1 <<< (128 : Int)) - 1)

/-- First and last address of a parsed range. -/
structure Range where
  networkBig : Int
  broadcastBig : Int

/-- Range of a text `address/length`; further parts are passed over. -/
def parseRange (text : List Char) : Option Range :=
  match text.splitOn '/' with
  | addr :: length :: _ => do
      let prefixLen ← Numeral.parseInt 10 length
      let addrBig ← ipv6ToBigInt (trim addr)
      let hostBits := 128 - prefixLen
      let networkBig := Int.land addrBig (networkMask hostBits)
      pure ⟨networkBig, Int.lor networkBig ((1 <<< hostBits) - 1)⟩
  | _ => none

/-- Row of `ip_pools`, as far as assignment reads it. -/
structure Pool where
  id : Nat
  organizationId : Option Nat
  /-- Network, as `address/length`. -/
  network : List Char
  defaultPrefixLen : Option Nat
  /-- Ranges to skip, one a line or separated by commas. -/
  excludedRanges : Option (List Char)
  defaultPrefixLen_le : ∀ len ∈ defaultPrefixLen, len ≤ 128

def parseIpv6Pool (pool : Pool) : Option Range :=
  if '/' ∈ pool.network then parseRange pool.network else none

/-- Entries of `excluded_ranges`. -/
def excludedEntries (excludedRanges : List Char) : List (List Char) :=
  ((excludedRanges.splitOnP fun c => decide (c = '\n' ∨ c = ',')).map trim).filter
    fun entry => !entry.isEmpty

/-- One entry of `excluded_ranges` covers the address; a malformed entry is skipped. -/
def entryExcludes (ipBig : Int) (entry : List Char) : Bool :=
  if '/' ∈ entry then
    (parseRange entry).any fun range =>
      decide (range.networkBig ≤ ipBig ∧ ipBig ≤ range.broadcastBig)
  else (ipv6ToBigInt entry).any fun address => decide (address = ipBig)

def isIpv6Excluded (ipBig : Int) (excludedRanges : Option (List Char)) : Bool :=
  excludedRanges.any fun ranges => (excludedEntries ranges).any (entryExcludes ipBig)

inductive Status
  | active
  | available
  | expired
  deriving DecidableEq

/-- `ip_assignments.type`. -/
inductive Kind
  | static
  | dynamic
  | reserved

/-- Row of `ip_assignments`. -/
structure Assignment where
  id : Nat
  poolId : Nat
  organizationId : Option Nat
  ipAddress : List Char
  prefixLen : Option Nat
  contractId : Option Nat
  clientId : Option Nat
  kind : Kind
  status : Status
  deleted : Bool

/-- `deleted_at IS NULL AND status != 'expired'`. -/
def Assignment.live (row : Assignment) : Bool := !row.deleted && decide (row.status ≠ .expired)

/-- `ip_assignments`. -/
structure Store where
  nextId : Nat
  rows : List Assignment

/-- Who the prefix is for. -/
structure Subscriber where
  contractId : Option Nat
  clientId : Option Nat
  kind : Kind

/-- `taken`: addresses of the live assignments of a pool. -/
def taken (store : Store) (pool : Pool) : List (List Char) :=
  (store.rows.filter fun row => decide (row.poolId = pool.id) && row.live).map Assignment.ipAddress

def blockSize (len : Nat) : Int := 1 <<< (128 - len : Int)

def candidate (prefixStart : Int) (len : Nat) : List Char :=
  bigIntToIpv6 prefixStart ++ '/' :: Nat.toDigits 10 len

/-- Addresses are equal where they look equal. -/
local instance lawfulAddress : LawfulBEq (List Char) := inferInstance

/-- The loop does not go past the block that starts here. -/
def isFree (store : Store) (pool : Pool) (len : Nat) (prefixStart : Int) : Bool :=
  !isIpv6Excluded prefixStart pool.excludedRanges &&
    !decide (candidate prefixStart len ∈ taken store pool) &&
    !decide (bigIntToIpv6 prefixStart ∈ taken store pool)

/-- The loop over the blocks of the pool; `count` blocks are left. -/
def nextFree (free : Int → Bool) (size broadcastBig : Int) : Nat → Int → Option Int
  | 0, _ => none
  | count + 1, prefixStart =>
    if prefixStart + size - 1 ≤ broadcastBig then
      if free prefixStart then some prefixStart
      else nextFree free size broadcastBig count (prefixStart + size)
    else none

/-- Number of blocks that fit in a range. -/
def blockCount (range : Range) (size : Int) : Nat :=
  ((range.broadcastBig + 1 - range.networkBig) / size).toNat

/-- Why no prefix is assigned. -/
inductive Refusal
  | unparsedPool
  /-- `Pool missing default_prefix_len for IPv6 prefix delegation`. -/
  | missingPrefixLen
  /-- `No free IPv6 prefixes available in pool`. -/
  | noFreePrefix
  /-- The unique key on the addresses of rows that are not deleted refuses the row. -/
  | duplicateAddress

/-- `uq_ip_assignments_ip`: a row that is not deleted has the address, as the collation reads it. -/
def isStored (collate : List Char → List Char) (store : Store) (ipAddress : List Char) : Bool :=
  store.rows.any fun row => !row.deleted && decide (collate row.ipAddress = collate ipAddress)

/-- Row inserted for a prefix. -/
def newAssignment (store : Store) (pool : Pool) (subscriber : Subscriber) (ipAddress : List Char) :
    Assignment where
  id := store.nextId
  poolId := pool.id
  organizationId := pool.organizationId
  ipAddress := ipAddress
  prefixLen := none
  contractId := subscriber.contractId
  clientId := subscriber.clientId
  kind := subscriber.kind
  status := .active
  deleted := false

/-- `assignNextFreeIpv6Prefix`: the row of the prefix assigned, and the table after it. -/
def assignNextFreeIpv6Prefix (collate : List Char → List Char) (store : Store) (pool : Pool)
    (subscriber : Subscriber) : Except Refusal (Assignment × Store) := do
  let some range := parseIpv6Pool pool | throw .unparsedPool
  let some len := pool.defaultPrefixLen | throw .missingPrefixLen
  refuseIf (len = 0) .missingPrefixLen
  let some prefixStart := nextFree (isFree store pool len) (blockSize len) range.broadcastBig
    (blockCount range (blockSize len)) range.networkBig | throw .noFreePrefix
  refuseIf (isStored collate store (candidate prefixStart len) = true) .duplicateAddress
  let row := newAssignment store pool subscriber (candidate prefixStart len)
  pure (row, ⟨store.nextId + 1, store.rows ++ [row]⟩)

end FireIsp.Ipam
