import FireIsp.Base.Successive
import FireIsp.Base.Table
import Mathlib.Data.Rat.Floor

/-!
# Throughput of interfaces

Octet counters that are polled become rates: for each interface, between samples that follow each other
in time.  Counters that went backwards are left out.  Within a bucket of time the rates of an interface
are averaged and the averages of all interfaces are added.
-/

namespace FireIsp.Throughput

/-- A sample of an interface; one without an interface is skipped, as a missing one is. -/
structure Sample where
  iface : Option String
  t : Int
  inO : Int
  outO : Int
  deriving DecidableEq

/-- The second argument. -/
structure Options where
  fromMs : ℚ
  toMs : ℚ
  buckets : Int

/-- `nBuckets`; the number is made one of 32 bits. -/
def Options.nBuckets (o : Options) : Nat := (max 1 (o.buckets.bmod (2 ^ 32))).toNat

theorem Options.nBuckets_pos (o : Options) : 0 < o.nBuckets := by
  unfold nBuckets
  omega

def Options.width (o : Options) : ℚ :=
  let width := (o.toMs - o.fromMs) / o.nBuckets
  if width = 0 then 1 else width

/-- Sums and numbers of the rates of an interface in a bucket. -/
structure Entry where
  inSum : ℚ
  inN : Nat
  outSum : ℚ
  outN : Nat

/-- An entry without rates. -/
def Entry.zero : Entry := { inSum := 0, inN := 0, outSum := 0, outN := 0 }

/-- A direction whose counter did not go backwards counts. -/
def Entry.add (e : Entry) (dIn dOut : Int) (dtSec : ℚ) : Entry where
  inSum := if 0 ≤ dIn then e.inSum + dIn * 8 / dtSec else e.inSum
  inN := if 0 ≤ dIn then e.inN + 1 else e.inN
  outSum := if 0 ≤ dOut then e.outSum + dOut * 8 / dtSec else e.outSum
  outN := if 0 ≤ dOut then e.outN + 1 else e.outN

/-- `byIface` after a sample more. -/
def group (byIface : List (String × List Sample)) (s : Sample) : List (String × List Sample) :=
  match s.iface with
  | none => byIface
  | some iface =>
    let arr := ((Table.find Prod.fst iface byIface).map Prod.snd).getD []
    Table.put Prod.fst (iface, arr ++ [s]) byIface

/-- The samples of each interface, in the order of their first ones. -/
def byIface (samples : List Sample) : List (String × List Sample) := samples.foldl group []

/-- What the pairs of samples fill. -/
structure Buckets where
  perBucketIface : List (List (String × Entry))
  hasData : Bool

def Options.bucketOf (o : Options) (t : Int) : Nat :=
  min (o.nBuckets - 1) ⌊((t : ℚ) - o.fromMs) / o.width⌋.toNat

/-- Seconds between two samples. -/
def seconds (a b : Sample) : ℚ := ((b.t : ℚ) - a.t) / 1000

/-- One round of the inner loop, for two samples of an interface that follow each other. -/
def record (o : Options) (iface : String) (acc : Buckets) (pair : Sample × Sample) : Buckets :=
  let (a, b) := pair
  let dtSec := seconds a b
  if dtSec ≤ 0 then acc
  else if (b.t : ℚ) < o.fromMs ∨ o.toMs ≤ b.t then acc
  else
    let dIn := b.inO - a.inO
    let dOut := b.outO - a.outO
    if dIn < 0 ∧ dOut < 0 then acc
    else
      { perBucketIface := acc.perBucketIface.modify (o.bucketOf b.t) fun m =>
          let e := ((Table.find Prod.fst iface m).map Prod.snd).getD .zero
          Table.put Prod.fst (iface, e.add dIn dOut dtSec) m
        hasData := true }

/-- Samples in the order of their times; those of one time stay in the order they came in. -/
def inOrder (arr : List Sample) : List Sample := arr.insertionSort fun a b => a.t ≤ b.t

/-- One round of the outer loop, for the samples of an interface. -/
def recordAll (o : Options) (acc : Buckets) (entry : String × List Sample) : Buckets :=
  (Successive.pairs (inOrder entry.2)).foldl (record o entry.1) acc

def fill (o : Options) (samples : List Sample) : Buckets :=
  (byIface samples).foldl (recordAll o)
    { perBucketIface := List.replicate o.nBuckets [], hasData := false }

/-- The sums of the averages in each bucket. -/
structure Totals where
  inTotals : List ℚ
  outTotals : List ℚ
  deriving DecidableEq

/-- `inTotals[bi]` -/
def inTotal (m : List (String × Entry)) : ℚ :=
  m.foldl (fun total e => if 0 < e.2.inN then total + e.2.inSum / e.2.inN else total) 0

/-- `outTotals[bi]` -/
def outTotal (m : List (String × Entry)) : ℚ :=
  m.foldl (fun total e => if 0 < e.2.outN then total + e.2.outSum / e.2.outN else total) 0

/-- `inActive[bi]` -/
def inActive (m : List (String × Entry)) : Bool := m.any fun e => decide (0 < e.2.inN)

def Buckets.totals (filled : Buckets) : Totals where
  inTotals := filled.perBucketIface.map inTotal
  outTotals := filled.perBucketIface.map outTotal

def totals (o : Options) (samples : List Sample) : Totals := (fill o samples).totals

def round (x : ℚ) : Int := ⌊x + 1 / 2⌋

def toGbps (bps : ℚ) : ℚ := round (bps / 1000000000 * 100) / 100

/-- A point of the series. -/
structure Point where
  /-- The instant of `ts`, in whole milliseconds. -/
  ts : Int
  inBps : Int
  outBps : Int
  deriving DecidableEq

/-- What is returned. -/
structure Series where
  points : List Point
  peakBps : Int
  avgBps : Int
  p95Bps : Int
  peakGbps : ℚ
  avgGbps : ℚ
  p95Gbps : ℚ
  hasData : Bool

/-- A number of milliseconds without its fraction, as a date has it. -/
def truncated (ms : ℚ) : Int := if 0 ≤ ms then ⌊ms⌋ else ⌈ms⌉

def aggregateThroughput (samples : List Sample) (o : Options) : Series :=
  let filled := fill o samples
  let points := filled.perBucketIface.mapIdx fun bi m =>
    { ts := truncated (o.fromMs + bi * o.width + o.width / 2)
      inBps := round (inTotal m)
      outBps := round (outTotal m) : Point }
  let active := (filled.perBucketIface.filter inActive).map inTotal
  let peak := active.max?.getD 0
  let avg := if active = [] then 0 else active.sum / active.length
  let sorted := active.insertionSort fun a b => a ≤ b
  let p95 := (sorted[min (sorted.length - 1) (sorted.length * 95 / 100)]?).getD 0
  { points
    peakBps := round peak
    avgBps := round avg
    p95Bps := round p95
    peakGbps := toGbps peak
    avgGbps := toGbps avg
    p95Gbps := toGbps p95
    hasData := filled.hasData }

end FireIsp.Throughput
