import FireIsp.Base.Table
import FireIsp.Routeros.Client

/-!
# The address list of VoIP networks

Networks of providers are collected from sources, and the address list of a router is brought in line with
them: what is missing is added under a comment of its own, and of the entries with that comment those that
are not wanted any more are removed.  The router keeps an address under its canonical text.
-/

namespace FireIsp.Voip

open Routeros (Word Sentence)

/-- A string. -/
abbrev Text : Type := List Char

/-- Texts are equal where they look equal. -/
local instance lawfulText : LawfulBEq (List Char) := inferInstance

/-- A set in the order its elements came in, with one more. -/
def addTo (set : List Text) (x : Text) : List Text := if x ∈ set then set else set ++ [x]

section Ranges

/-- `trim` -/
def trimmed (s : Text) : Text := Text.trimmed (String.ofList s)

/-- Up to three digits, and what follows them. -/
def number (text : Text) : Option (Nat × Text) :=
  let digits := (text.take 3).takeWhile (Numeral.isDigit 10)
  if digits = [] then none else some (Numeral.digitsValue 10 digits, text.drop digits.length)

def dotted : Text → Option (Nat × Text)
  | '.' :: rest => number rest
  | _ => none

/-- Four numbers with dots between them, and what follows. -/
def quad (text : Text) : Option (List Nat × Text) := do
  let (a, rest) ← number text
  let (b, rest) ← dotted rest
  let (c, rest) ← dotted rest
  let (d, rest) ← dotted rest
  return ([a, b, c, d], rest)

def isIpv4Cidr (s : Text) : Bool :=
  match quad (trimmed s) with
  | none => false
  | some (octets, rest) =>
    octets.all (fun octet => decide (octet ≤ 255)) &&
      match rest with
      | [] => true
      | '/' :: digits =>
        decide (1 ≤ digits.length ∧ digits.length ≤ 2) && digits.all (Numeral.isDigit 10) &&
          decide (Numeral.digitsValue 10 digits ≤ 32)
      | _ => false

def curatedFallback : List Text :=
  ["149.137.0.0/17".toList, "152.116.0.0/16".toList, "170.114.0.0/16".toList,
    "198.251.128.0/17".toList, "206.247.0.0/16".toList]

/-- `parseSourceBody`, with what the prefixes of a JSON text are unless it is none. -/
def parseSourceBody (parseJson : Text → Option (List Text)) (body : Text) : List Text :=
  let body := trimmed body
  let lines := ((body.splitOn '\n').map trimmed).filter fun line =>
    decide (line ≠ []) && line.head? != some '#' && line.head? != some ';'
  if body.head? = some '{' ∨ body.head? = some '[' then (parseJson body).getD lines else lines

/-- The ranges of `resolveRanges`; a source that could not be fetched has no body. -/
def resolveRanges (parseJson : Text → Option (List Text)) (maxEntries : Nat)
    (bodies : List (Option Text)) : List Text :=
  let collected := bodies.foldl (fun collected body =>
    (((body.map (parseSourceBody parseJson)).getD []).filter isIpv4Cidr).foldl addTo collected) []
  let collected :=
    if collected = [] then (curatedFallback.filter isIpv4Cidr).foldl addTo [] else collected
  if maxEntries < collected.length then collected.take maxEntries else collected

end Ranges

section Router

def idText (id : Nat) : Text := '*' :: Nat.toDigits 16 id

structure Entry where
  id : Nat
  list : Text
  address : Text
  comment : Text
  deriving DecidableEq

structure Row where
  id : Nat
  comment : Text
  deriving DecidableEq

/-- What matters of a router. -/
structure Router where
  queues : List Row
  /-- `/ip/firewall/mangle` -/
  mangles : List Row
  /-- `/ip/firewall/address-list` -/
  entries : List Entry
  nextId : Nat
  deriving DecidableEq

/-- A command that is sent. -/
inductive Command
  /-- `/queue/tree/print ?comment=` -/
  | printQueues (comment : Text)
  /-- `/ip/firewall/mangle/print ?comment=` -/
  | printMangles (comment : Text)
  /-- `/ip/firewall/address-list/print ?list=` -/
  | printEntries (list : Text)
  /-- `/ip/firewall/address-list/add` -/
  | add (list address comment : Text)
  /-- `/ip/firewall/address-list/remove` -/
  | remove (id : Text)

/-- Why a command is refused. -/
inductive Trap
  | alreadyHave
  | invalid
  | noSuchItem
  deriving DecidableEq

def attrWord (key val : Text) : Word := '=' :: key ++ '=' :: val

/-- An entry as it is printed. -/
def Entry.sentence (e : Entry) : Sentence :=
  "!re".toList :: attrWord ".id".toList (idText e.id) :: attrWord "list".toList e.list ::
    attrWord "address".toList e.address ::
      if e.comment = [] then [] else [attrWord "comment".toList e.comment]

/-- A row as it is printed. -/
def Row.sentence (row : Row) : Sentence :=
  ["!re".toList, attrWord ".id".toList (idText row.id), attrWord "comment".toList row.comment]

/-- Reply to a command and the router behind it; `canon` is the text an address is kept under. -/
def Router.exec (canon : Text → Option Text) (router : Router) :
    Command → Except Trap (List Sentence) × Router
  | .printQueues comment =>
    (.ok (((router.queues.filter fun row => row.comment = comment).map Row.sentence) ++
      [["!done".toList]]), router)
  | .printMangles comment =>
    (.ok (((router.mangles.filter fun row => row.comment = comment).map Row.sentence) ++
      [["!done".toList]]), router)
  | .printEntries list =>
    (.ok (((router.entries.filter fun e => e.list = list).map Entry.sentence) ++
      [["!done".toList]]), router)
  | .add list address comment =>
    match canon address with
    | none => (.error .invalid, router)
    | some address =>
      if router.entries.any fun e => e.list = list ∧ e.address = address then
        (.error .alreadyHave, router)
      else
        (.ok [["!done".toList, attrWord "ret".toList (idText router.nextId)]],
          { router with
            entries := router.entries ++ [⟨router.nextId, list, address, comment⟩]
            nextId := router.nextId + 1 })
  | .remove id =>
    if router.entries.any fun e => idText e.id = id then
      (.ok [["!done".toList]],
        { router with entries := router.entries.filter fun e => idText e.id ≠ id })
    else (.error .noSuchItem, router)

end Router

section Sync

/-- The key and the value of a word. -/
def attrOf : Word → Option (Text × Text)
  | '=' :: rest =>
    if '=' ∈ rest then
      some (rest.takeWhile fun c => c ≠ '=', (rest.dropWhile fun c => c ≠ '=').tail)
    else none
  | _ => none

def parseAttrs (words : Sentence) : List (Text × Text) :=
  words.foldl (fun obj word => (attrOf word).elim obj fun attr => Table.put Prod.fst attr obj) []

/-- The value of a key, unless it is missing or empty. -/
def valueOf (key : Text) (obj : List (Text × Text)) : Option Text :=
  ((Table.find Prod.fst key obj).map Prod.snd).filter fun val => val ≠ []

/-- `findId`, in what was printed. -/
def findId : List Sentence → Option Text
  | [] => none
  | sentence :: sentences =>
    if sentence.head? = some "!re".toList then
      (valueOf ".id".toList (parseAttrs sentence.tail)).or (findId sentences)
    else findId sentences

/-- `SEED_TAG` with an ending. -/
def tagged (ending : String) : Text := ("fireisp" ++ ending).toList

def autoComment : Text := tagged "-voip-auto"

/-- What was read of the list. -/
structure Listing where
  allAddresses : List Text
  autoEntries : List (Text × Text)

/-- A sentence of what was printed. -/
def Listing.read (listing : Listing) (s : Sentence) : Listing :=
  if s.head? ≠ some "!re".toList then listing
  else
    let a := parseAttrs s.tail
    match valueOf "address".toList a with
    | none => listing
    | some address =>
      { allAddresses := addTo listing.allAddresses address
        autoEntries :=
          match valueOf ".id".toList a with
          | none => listing.autoEntries
          | some id =>
            if valueOf "comment".toList a = some autoComment then
              Table.put Prod.fst (address, id) listing.autoEntries
            else listing.autoEntries }

variable (canon : Text → Option Text) (listName : Text)

/-- The loop that adds, and how many were added. -/
def addMissing (allAddresses : List Text) : List Text → Nat → Router → Except Trap Nat × Router
  | [], added, router => (.ok added, router)
  | cidr :: todo, added, router =>
    if cidr ∈ allAddresses then addMissing allAddresses todo added router
    else
      match router.exec canon (.add listName cidr autoComment) with
      | (.error trap, router) => (.error trap, router)
      | (.ok _, router) => addMissing allAddresses todo (added + 1) router

/-- The loop that removes, and how many were removed. -/
def removeStale (desired : List Text) :
    List (Text × Text) → Nat → Router → Except Trap Nat × Router
  | [], removed, router => (.ok removed, router)
  | (addr, id) :: todo, removed, router =>
    if addr ∈ desired then removeStale desired todo removed router
    else
      match router.exec canon (.remove id) with
      | (.error trap, router) => (.error trap, router)
      | (.ok _, router) => removeStale desired todo (removed + 1) router

inductive Report
  | skipped
  | reconciled (added removed kept desired : Nat)
  deriving DecidableEq

/-- What a command replies; the printing ones are not refused. -/
def Router.print (router : Router) (command : Command) : List Sentence :=
  ((router.exec canon command).1.toOption).getD []

/-- `realtimeSeeded` -/
def Router.seeded (router : Router) : Bool :=
  ((findId (router.print canon (.printQueues (tagged "-realtime")))).or
    (findId (router.print canon (.printMangles (tagged "-rt-packet"))))).isSome

/-- `syncVoipAddressList`, where no connection is lost. -/
def syncVoipAddressList (ranges : List Text) (router : Router) : Except Trap Report × Router :=
  if router.seeded canon then
    let listing := (router.print canon (.printEntries listName)).foldl Listing.read ⟨[], []⟩
    let desired := ranges.foldl addTo []
    match addMissing canon listName listing.allAddresses desired 0 router with
    | (.error trap, router) => (.error trap, router)
    | (.ok added, router) =>
      match removeStale canon desired listing.autoEntries 0 router with
      | (.error trap, router) => (.error trap, router)
      | (.ok removed, router) =>
        (.ok (.reconciled added removed (desired.length - added) desired.length), router)
  else (.ok .skipped, router)

end Sync

end FireIsp.Voip
