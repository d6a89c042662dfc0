import FireIsp.Base.Encoding
import FireIsp.Base.Run

/-!
# Sentences of the RouterOS API

A sentence is a list of words, each behind its length, and ends with a word of length zero.  What was
encoded is read back, however it is cut.
-/

namespace FireIsp.Routeros

abbrev Word : Type := List Char

abbrev Sentence : Type := List Word

/-- A byte of a number. -/
def byteOf (n : Nat) : UInt8 := UInt8.ofNat n

/-- The length of a word as it is sent. -/
def encodeLength (len : Nat) : List UInt8 :=
  if len < 0x80 then [byteOf len]
  else if len < 0x4000 then [byteOf (len >>> 8 ||| 0x80), byteOf (len &&& 0xff)]
  else if len < 0x200000 then
    [byteOf (len >>> 16 ||| 0xc0), byteOf (len >>> 8 &&& 0xff), byteOf (len &&& 0xff)]
  else if len < 0x10000000 then
    [byteOf (len >>> 24 ||| 0xe0), byteOf (len >>> 16 &&& 0xff), byteOf (len >>> 8 &&& 0xff),
      byteOf (len &&& 0xff)]
  else
    [0xf0, byteOf (len >>> 24 &&& 0xff), byteOf (len >>> 16 &&& 0xff), byteOf (len >>> 8 &&& 0xff),
      byteOf (len &&& 0xff)]

def encodeWord (word : Word) : List UInt8 :=
  encodeLength (Utf8.encode word).length ++ Utf8.encode word

def encodeSentence (words : Sentence) : List UInt8 := words.flatMap encodeWord ++ [0x00]

/-- A length and what follows it, unless bytes of it are missing. -/
def readLength : List UInt8 → Option (Nat × List UInt8)
  | [] => none
  | b0 :: rest =>
    if b0.toNat &&& 0x80 = 0 then some (b0.toNat, rest)
    else if b0.toNat &&& 0xc0 = 0x80 then
      match rest with
      | b1 :: rest => some ((b0.toNat &&& 0x3f) <<< 8 ||| b1.toNat, rest)
      | _ => none
    else if b0.toNat &&& 0xe0 = 0xc0 then
      match rest with
      | b1 :: b2 :: rest =>
        some ((b0.toNat &&& 0x1f) <<< 16 ||| b1.toNat <<< 8 ||| b2.toNat, rest)
      | _ => none
    else if b0.toNat &&& 0xf0 = 0xe0 then
      match rest with
      | b1 :: b2 :: b3 :: rest =>
        some ((b0.toNat &&& 0x0f) <<< 24 ||| b1.toNat <<< 16 ||| b2.toNat <<< 8 ||| b3.toNat, rest)
      | _ => none
    else
      match rest with
      | b1 :: b2 :: b3 :: b4 :: rest =>
        some (b1.toNat <<< 24 ||| b2.toNat <<< 16 ||| b3.toNat <<< 8 ||| b4.toNat, rest)
      | _ => none

inductive Read
  | short
  | word (word : Word) (rest : List UInt8)
  /-- Its length is negative as a signed number, and reading does not come back. -/
  | astray

/-- `readWord`, on the bytes from the offset on. -/
def readWord (bytes : List UInt8) : Read :=
  match readLength bytes with
  | none => .short
  | some (len, rest) =>
    if 2 ^ 31 ≤ len then .astray
    else if rest.length < len then .short
    else .word (Utf8.decode (rest.take len)) (rest.drop len)

/-- The loop over words: the complete sentences, and the bytes of the one that is not. -/
def scan : Nat → List UInt8 → Sentence → List UInt8 → Option (List Sentence × List UInt8)
  | 0, _, _, _ => none
  | fuel + 1, start, sentence, bytes =>
    match readWord bytes with
    | .short => some ([], start)
    | .astray => none
    | .word [] rest =>
      (scan fuel rest [] rest).map fun (sentences, remaining) =>
        (sentence :: sentences, remaining)
    | .word word rest => scan fuel start (sentence ++ [word]) rest

/-- `parseSentences`; every word takes a byte at least. -/
def parseSentences (buf : List UInt8) : Option (List Sentence × List UInt8) :=
  scan (buf.length + 1) buf [] buf

/-- What the calls of `_onData` deliver, and the bytes that are left. -/
def receive : List UInt8 → List (List UInt8) → Option (List Sentence × List UInt8)
  | buf, [] => some ([], buf)
  | buf, chunk :: chunks =>
    match parseSentences (buf ++ chunk) with
    | none => none
    | some (sentences, remaining) =>
      (receive remaining chunks).map fun (more, left) => (sentences ++ more, left)

end FireIsp.Routeros

/-!
## The RouterOS client

Commands wait in the order they were sent in, and each sentence that comes in goes to the first of
them.  What the router has yet to send, and whose answer a sentence is part of, is kept beside it.
-/

namespace FireIsp.Routeros

/-- `'!re'` -/
def re : Word := ['!', 'r', 'e']

/-- `'!done'` -/
def done : Word := ['!', 'd', 'o', 'n', 'e']

/-- `'!trap'` -/
def trap : Word := ['!', 't', 'r', 'a', 'p']

/-- `'!fatal'` -/
def fatal : Word := ['!', 'f', 'a', 't', 'a', 'l']

/-- `'=message='` -/
def messageKey : Word := ['=', 'm', 'e', 's', 's', 'a', 'g', 'e', '=']

/-- A sentence of an answer, with the command that it answers. -/
abbrev Reply : Type := Option Nat × Sentence

/-- An entry of `_pending`. -/
structure Pending where
  id : Nat
  sentences : List Reply

/-- How a command ends. -/
inductive Outcome
  | resolved (sentences : List Sentence)
  /-- With the message of a sentence that came in. -/
  | rejected (message : Word)
  | timedOut
  | unwritten
  | disconnected
  deriving DecidableEq

/-- A command that has ended. -/
structure Settled where
  id : Nat
  sentences : List Reply
  outcome : Outcome
  deriving DecidableEq

/-- A client, and what its router has yet to send. -/
structure Client where
  next : Nat
  buf : List UInt8
  pending : List Pending
  /-- Sentences of answers that have not come in completely. -/
  owed : List (Nat × Sentence)
  settled : List Settled
  hung : Bool

/-- What happens. -/
inductive Event
  /-- `run`, with what the router will answer, unless writing throws. -/
  | run (answer : List Sentence) (thrown : Bool)
  | timeout (id : Nat)
  | data (chunk : List UInt8)
  | disconnects

namespace Client

/-- A client that has connected. -/
def new : Client where
  next := 0
  buf := []
  pending := []
  owed := []
  settled := []
  hung := false

/-- A command has ended. -/
def settle (c : Client) (p : Pending) (outcome : Outcome) : Client :=
  { c with settled := c.settled ++ [⟨p.id, p.sentences, outcome⟩] }

/-- `_sendSentence` -/
def send (c : Client) (answer : List Sentence) (thrown : Bool) : Client :=
  let p : Pending := ⟨c.next, []⟩
  if thrown then ({ c with next := c.next + 1 } : Client).settle p .unwritten
  else
    { c with
      next := c.next + 1
      pending := c.pending ++ [p]
      owed := c.owed ++ answer.map fun sentence => (c.next, sentence) }

/-- The timer of a command fires; it is cleared when the command ends. -/
def timeout (c : Client) (id : Nat) : Client :=
  match c.pending.find? fun p => p.id = id with
  | none => c
  | some p =>
    ({ c with pending := c.pending.filter fun p => p.id ≠ id } : Client).settle p .timedOut

/-- What a command is rejected with. -/
def messageOf (sentence : Sentence) : Word :=
  match sentence.find? fun word => messageKey.isPrefixOf word with
  | some word => word.drop 9
  | none => "RouterOS ".toList ++ sentence.headD []

def onSentence (c : Client) (reply : Reply) : Client :=
  match c.pending with
  | [] => c
  | first :: rest =>
    let p : Pending := { first with sentences := first.sentences ++ [reply] }
    let type := reply.2.head?
    if type = some done then
      ({ c with pending := rest } : Client).settle p (.resolved (p.sentences.map Prod.snd))
    else if type = some trap ∨ type = some fatal then
      ({ c with pending := rest } : Client).settle p (.rejected (messageOf reply.2))
    else { c with pending := p :: rest }

/-- A sentence comes in; it is the next one that the router had to send. -/
def deliver (c : Client) (sentence : Sentence) : Client :=
  ({ c with owed := c.owed.tail } : Client).onSentence
    (c.owed.head?.map Prod.fst, sentence)

def onData (c : Client) (chunk : List UInt8) : Client :=
  match parseSentences (c.buf ++ chunk) with
  | none => { c with hung := true }
  | some (sentences, remaining) => sentences.foldl deliver { c with buf := remaining }

/-- `_onSocketError` and `_onClose` -/
def disconnect (c : Client) : Client :=
  { c with
    pending := []
    settled := c.settled ++ c.pending.map fun p => ⟨p.id, p.sentences, .disconnected⟩ }

def step (c : Client) (event : Event) : Client :=
  if c.hung then c
  else
    match event with
    | .run answer thrown => c.send answer thrown
    | .timeout id => c.timeout id
    | .data chunk => c.onData chunk
    | .disconnects => c.disconnect

end Client

end FireIsp.Routeros
