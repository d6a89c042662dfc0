import FireIsp.Throughput.Series
import Mathlib.Algebra.BigOperators.Group.Finset.Basic

/-!
# Totals are sums of averages

In each bucket and for each direction the total is a sum over the interfaces.  What an interface adds is
the mean of the rates between those of its samples that follow each other in time.
-/

namespace FireIsp.Throughput

open Successive

inductive Direction
  | inward
  | outward

namespace Direction

def counter : Direction → Sample → Int
  | inward => Sample.inO
  | outward => Sample.outO

def sum : Direction → Entry → ℚ
  | inward => Entry.inSum
  | outward => Entry.outSum

def number : Direction → Entry → Nat
  | inward => Entry.inN
  | outward => Entry.outN

def total : Direction → List (String × Entry) → ℚ
  | inward => inTotal
  | outward => outTotal

def totals : Direction → Totals → List ℚ
  | inward => Totals.inTotals
  | outward => Totals.outTotals

end Direction

variable (o : Options) (d : Direction) (bi : Nat)

/-- The interval of two samples ends in a bucket. -/
def EndsIn (pair : Sample × Sample) : Prop :=
  pair.1.t < pair.2.t ∧ o.fromMs ≤ pair.2.t ∧ (pair.2.t : ℚ) < o.toMs ∧ o.bucketOf pair.2.t = bi

instance (pair : Sample × Sample) : Decidable (EndsIn o bi pair) :=
  inferInstanceAs (Decidable (_ ∧ _ ∧ _ ∧ _))

/-- How far a counter went forward, unless it went backwards. -/
def increase (a b : Sample) : Option Int :=
  if d.counter a ≤ d.counter b then some (d.counter b - d.counter a) else none

/-- The rate between two samples, if it counts in a bucket. -/
def figure (pair : Sample × Sample) : Option ℚ :=
  if EndsIn o bi pair then
    (increase d pair.1 pair.2).map fun gain : Int => (gain : ℚ) * 8 / seconds pair.1 pair.2
  else none

/-- What the samples of an interface add in a bucket. -/
def average (arr : List Sample) : ℚ := mean ((pairs (inOrder arr)).map (figure o d bi))

/-- What an entry adds in a bucket. -/
def share (e : Entry) : ℚ := if 0 < d.number e then d.sum e / d.number e else 0

theorem total_eq_sum (m : List (String × Entry)) :
    d.total m = (m.map fun e => share d e.2).sum := by
  have hfold : ∀ (m : List (String × Entry)) (start : ℚ),
      m.foldl (fun total e => if 0 < d.number e.2 then total + d.sum e.2 / d.number e.2 else total)
        start = start + (m.map fun e => share d e.2).sum := by
    intro m
    induction m with
    | nil => simp
    | cons e m ih =>
      intro start
      rw [List.foldl_cons, ih, List.map_cons, List.sum_cons, share]
      split_ifs <;> ring
  have h := hfold m 0
  rw [zero_add] at h
  cases d <;> exact h

/-- The entry of an interface in a bucket after a round. -/
def grown (e : Option Entry) (pair : Sample × Sample) : Option Entry :=
  if EndsIn o bi pair ∧ ¬(pair.2.inO - pair.1.inO < 0 ∧ pair.2.outO - pair.1.outO < 0) then
    some ((e.getD .zero).add (pair.2.inO - pair.1.inO) (pair.2.outO - pair.1.outO)
      (seconds pair.1 pair.2))
  else e

theorem seconds_le_zero (a b : Sample) : seconds a b ≤ 0 ↔ b.t ≤ a.t := by
  rw [seconds, div_nonpos_iff]
  simp only [sub_nonneg, sub_nonpos, Int.cast_le]
  constructor
  · rintro (⟨-, h⟩ | ⟨h, -⟩)
    · norm_num at h
    · exact h
  · intro h
    exact Or.inr ⟨h, by norm_num⟩

variable {acc : Buckets} {iface : String}

theorem record_bucket {old : List (String × Entry)} (hnew : iface ∉ old.map Prod.fst)
    (pair : Sample × Sample) {e : Option Entry}
    (h : acc.perBucketIface[bi]? = some (old ++ e.toList.map (iface, ·))) :
    (record o iface acc pair).perBucketIface[bi]? =
      some (old ++ (grown o bi e pair).toList.map (iface, ·)) := by
  obtain ⟨a, b⟩ := pair
  have hput : ∀ x : Entry, Table.put Prod.fst (iface, x) (old ++ e.toList.map (iface, ·)) =
      old ++ [(iface, x)] := by
    intro x
    cases e with
    | none => simpa using Table.put_fresh hnew
    | some e => exact Table.put_middle rfl hnew
  have hnone : Table.find Prod.fst iface old = none := by
    rw [Table.find, List.find?_eq_none]
    intro x hx heq
    exact hnew (List.mem_map.mpr ⟨x, hx, of_decide_eq_true heq⟩)
  have hfind : ((Table.find Prod.fst iface (old ++ e.toList.map (iface, ·))).map
      Prod.snd).getD .zero = e.getD .zero := by
    rw [Table.find_append, hnone, Option.none_or]
    cases e with
    | none => rfl
    | some e => simp [Table.find]
  simp only [record, grown, EndsIn, seconds_le_zero]
  by_cases ht : b.t ≤ a.t
  · simp only [ht, if_true, not_lt.mpr ht, false_and, if_false, h]
  by_cases hwindow : (b.t : ℚ) < o.fromMs ∨ o.toMs ≤ b.t
  · have hout : ¬(o.fromMs ≤ b.t ∧ (b.t : ℚ) < o.toMs ∧ o.bucketOf b.t = bi) := by
      rintro ⟨hfrom, hto, -⟩
      exact hwindow.elim (not_lt.mpr hfrom) (not_le.mpr hto)
    simp only [ht, if_false, hwindow, if_true, hout, and_false, false_and, h]
  by_cases hback : b.inO - a.inO < 0 ∧ b.outO - a.outO < 0
  · simp only [ht, hwindow, hback, not_true_eq_false, and_false, and_self, if_false, if_true, h]
  obtain ⟨hfrom, hto⟩ := not_or.mp hwindow
  simp only [ht, hwindow, hback, if_false, not_lt.mp hfrom, not_le.mp hto, not_le.mp ht, true_and,
    not_false_eq_true, and_true]
  by_cases hbucket : o.bucketOf b.t = bi
  · subst hbucket
    rw [List.getElem?_modify_eq, h, if_pos rfl]
    simp only [Option.map_eq_map, Option.map_some, hfind, hput, Option.toList_some, List.map_cons,
      List.map_nil]
  · simp only [List.getElem?_modify, hbucket, if_false, h]
    rfl

theorem length_record (acc : Buckets) (iface : String) (pair : Sample × Sample) :
    (record o iface acc pair).perBucketIface.length = acc.perBucketIface.length := by
  simp only [record]
  split_ifs
  · rfl
  · rfl
  · rfl
  · exact List.length_modify _ _ _

theorem add_interval (e : Entry) (a b : Sample) (dtSec : ℚ) :
    d.sum (e.add (b.inO - a.inO) (b.outO - a.outO) dtSec) =
        d.sum e + ((increase d a b).map fun gain : Int => (gain : ℚ) * 8 / dtSec).toList.sum ∧
      d.number (e.add (b.inO - a.inO) (b.outO - a.outO) dtSec) =
        d.number e +
          ((increase d a b).map fun gain : Int => (gain : ℚ) * 8 / dtSec).toList.length := by
  cases d with
  | inward =>
    by_cases h : a.inO ≤ b.inO <;>
      simp [Direction.sum, Direction.number, Direction.counter, increase, Entry.add, h]
  | outward =>
    by_cases h : a.outO ≤ b.outO <;>
      simp [Direction.sum, Direction.number, Direction.counter, increase, Entry.add, h]

theorem increase_of_back {a b : Sample} (h : b.inO - a.inO < 0 ∧ b.outO - a.outO < 0) :
    increase d a b = none := by
  rw [increase, if_neg]
  cases d with
  | inward => exact not_le.mpr (sub_neg.mp h.1)
  | outward => exact not_le.mpr (sub_neg.mp h.2)

theorem grown_rounds (rounds : List (Sample × Sample)) (e : Option Entry) :
    d.sum ((rounds.foldl (grown o bi) e).getD .zero) =
        d.sum (e.getD .zero) + (known (rounds.map (figure o d bi))).sum ∧
      d.number ((rounds.foldl (grown o bi) e).getD .zero) =
        d.number (e.getD .zero) + (known (rounds.map (figure o d bi))).length := by
  induction rounds generalizing e with
  | nil => simp [known]
  | cons pair rounds ih =>
    have hround : d.sum ((grown o bi e pair).getD .zero) =
          d.sum (e.getD .zero) + (figure o d bi pair).toList.sum ∧
        d.number ((grown o bi e pair).getD .zero) =
          d.number (e.getD .zero) + (figure o d bi pair).toList.length := by
      by_cases hends : EndsIn o bi pair
      · by_cases hback : pair.2.inO - pair.1.inO < 0 ∧ pair.2.outO - pair.1.outO < 0
        · simp [grown, figure, hends, hback, increase_of_back d hback]
        · rw [grown, if_pos ⟨hends, hback⟩, figure, if_pos hends]
          exact add_interval d _ _ _ _
      · simp [grown, figure, hends]
    obtain ⟨hsum, hnumber⟩ := ih (grown o bi e pair)
    rw [List.foldl_cons, hsum, hnumber, hround.1, hround.2, List.map_cons, known_cons,
      List.sum_append, List.length_append, add_assoc, add_assoc]
    exact ⟨rfl, rfl⟩

theorem share_rounds (rounds : List (Sample × Sample)) :
    ((rounds.foldl (grown o bi) none).elim 0 (share d)) = mean (rounds.map (figure o d bi)) := by
  obtain ⟨hsum, hnumber⟩ := grown_rounds o d bi rounds none
  have hzero : d.sum Entry.zero = 0 ∧ d.number Entry.zero = 0 := by
    cases d <;> exact ⟨rfl, rfl⟩
  rw [Option.getD_none, hzero.1, zero_add] at hsum
  rw [Option.getD_none, hzero.2, Nat.zero_add] at hnumber
  rw [mean, ← hsum, ← hnumber]
  cases rounds.foldl (grown o bi) none with
  | none => rw [Option.elim_none, Option.getD_none, hzero.1, zero_div, ite_self]
  | some e => rfl

theorem rounds_bucket {old : List (String × Entry)} (hnew : iface ∉ old.map Prod.fst)
    (rounds : List (Sample × Sample)) {e : Option Entry}
    (h : acc.perBucketIface[bi]? = some (old ++ e.toList.map (iface, ·))) :
    (rounds.foldl (record o iface) acc).perBucketIface[bi]? =
      some (old ++ (rounds.foldl (grown o bi) e).toList.map (iface, ·)) := by
  induction rounds generalizing acc e with
  | nil => exact h
  | cons pair rounds ih => exact ih (record_bucket o bi hnew pair h)

theorem length_rounds (iface : String) (rounds : List (Sample × Sample)) (acc : Buckets) :
    (rounds.foldl (record o iface) acc).perBucketIface.length = acc.perBucketIface.length := by
  induction rounds generalizing acc with
  | nil => rfl
  | cons pair rounds ih => rw [List.foldl_cons, ih, length_record]

/-- The buckets hold the samples of some interfaces. -/
structure Filled (done : List (String × List Sample)) (acc : Buckets) : Prop where
  length : acc.perBucketIface.length = o.nBuckets
  own : ∀ m ∈ acc.perBucketIface, ∀ e ∈ m, e.1 ∈ done.map Prod.fst
  total : ∀ d bi m, acc.perBucketIface[bi]? = some m →
    d.total m = (done.map fun entry => average o d bi entry.2).sum

variable {o}

theorem Filled.recordAll {done : List (String × List Sample)} (h : Filled o done acc)
    {entry : String × List Sample} (hnew : entry.1 ∉ done.map Prod.fst) :
    Filled o (done ++ [entry]) (recordAll o acc entry) := by
  have hlength : (Throughput.recordAll o acc entry).perBucketIface.length =
      acc.perBucketIface.length := length_rounds o _ _ _
  have hbucket : ∀ bi m, (Throughput.recordAll o acc entry).perBucketIface[bi]? = some m →
      ∃ old, acc.perBucketIface[bi]? = some old ∧ m = old ++
        ((pairs (inOrder entry.2)).foldl (grown o bi) none).toList.map (entry.1, ·) := by
    intro bi m hm
    obtain ⟨hlt, -⟩ := List.getElem?_eq_some_iff.mp hm
    have hold := List.getElem?_eq_getElem (hlength ▸ hlt)
    have hfresh : entry.1 ∉ acc.perBucketIface[bi].map Prod.fst := by
      intro hmem
      obtain ⟨e, he, heq⟩ := List.mem_map.mp hmem
      exact hnew (heq ▸ h.own _ (List.getElem_mem _) e he)
    have hnow := rounds_bucket o bi hfresh (pairs (inOrder entry.2)) (e := none)
      (hold.trans (by simp))
    exact ⟨_, hold, Option.some.inj (hm.symm.trans hnow)⟩
  refine ⟨hlength.trans h.length, fun m hm e he => ?_, fun d bi m hm => ?_⟩
  · obtain ⟨bi, hbi⟩ := List.mem_iff_getElem?.mp hm
    obtain ⟨old, hold, rfl⟩ := hbucket bi m hbi
    rw [List.map_append, List.mem_append]
    rcases List.mem_append.mp he with he | he
    · exact Or.inl (h.own old (List.mem_of_getElem? hold) e he)
    · obtain ⟨x, -, rfl⟩ := List.mem_map.mp he
      exact Or.inr (by simp)
  · obtain ⟨old, hold, rfl⟩ := hbucket bi m hm
    rw [total_eq_sum, List.map_append, List.sum_append, ← total_eq_sum, h.total d bi old hold,
      List.map_append, List.sum_append, List.map_singleton, List.sum_singleton, average,
      ← share_rounds]
    cases (pairs (inOrder entry.2)).foldl (grown o bi) none <;> simp

theorem Filled.foldl {done todo : List (String × List Sample)} (h : Filled o done acc)
    (hkeyed : Table.Keyed Prod.fst (done ++ todo)) :
    Filled o (done ++ todo) (todo.foldl (Throughput.recordAll o) acc) := by
  induction todo generalizing done acc with
  | nil => rwa [List.append_nil]
  | cons entry todo ih =>
    have hnew : entry.1 ∉ done.map Prod.fst := by
      intro hmem
      rw [Table.Keyed, List.map_append, List.nodup_append] at hkeyed
      exact hkeyed.2.2 _ hmem _ (List.mem_map_of_mem List.mem_cons_self) rfl
    rw [List.append_cons] at hkeyed ⊢
    exact ih (h.recordAll hnew) hkeyed

/-- The samples of an interface. -/
def samplesOf (iface : String) (samples : List Sample) : List Sample :=
  samples.filter fun s => s.iface = some iface

/-- The interfaces of samples. -/
def ifaces (samples : List Sample) : Finset String := (samples.filterMap Sample.iface).toFinset

variable {samples : List Sample}

theorem mem_ifaces :
    iface ∈ ifaces samples ↔ ∃ s ∈ samples, s.iface = some iface := by
  rw [ifaces, List.mem_toFinset, List.mem_filterMap]

theorem samplesOf_eq_nil (h : iface ∉ ifaces samples) :
    samplesOf iface samples = [] := by
  rw [samplesOf, List.filter_eq_nil_iff]
  intro s hs hiface
  exact h (mem_ifaces.mpr ⟨s, hs, of_decide_eq_true hiface⟩)

structure Grouped (samples : List Sample) (table : List (String × List Sample)) : Prop where
  keyed : Table.Keyed Prod.fst table
  arr : ∀ entry ∈ table, entry.2 = samplesOf entry.1 samples
  keys : ∀ iface, iface ∈ table.map Prod.fst ↔ iface ∈ ifaces samples

theorem Grouped.group {table : List (String × List Sample)} (h : Grouped samples table)
    (s : Sample) : Grouped (samples ++ [s]) (group table s) := by
  have hsamples : ∀ iface, samplesOf iface (samples ++ [s]) =
      samplesOf iface samples ++ if s.iface = some iface then [s] else [] := by
    intro iface
    rw [samplesOf, List.filter_append, List.filter_singleton]
    by_cases hs : s.iface = some iface <;> simp [samplesOf, hs]
  have hkeys : ∀ iface, iface ∈ ifaces (samples ++ [s]) ↔
      iface ∈ ifaces samples ∨ s.iface = some iface := by
    intro iface
    simp only [mem_ifaces, List.mem_append, List.mem_singleton, or_and_right, exists_or,
      exists_eq_left]
  cases hiface : s.iface with
  | none =>
    simp only [Throughput.group, hiface]
    refine ⟨h.keyed, fun entry hentry => ?_, fun iface => ?_⟩
    · rw [hsamples, hiface, if_neg (by simp), List.append_nil, h.arr entry hentry]
    · rw [hkeys, h.keys, hiface]
      simp
  | some iface =>
    have harr : ((Table.find Prod.fst iface table).map Prod.snd).getD [] =
        samplesOf iface samples := by
      cases hfound : Table.find Prod.fst iface table with
      | none =>
        rw [Option.map_none, Option.getD_none, samplesOf_eq_nil]
        rw [← h.keys]
        intro hmem
        obtain ⟨entry, hentry, heq⟩ := List.mem_map.mp hmem
        exact List.find?_eq_none.mp hfound entry hentry (decide_eq_true heq)
      | some entry =>
        obtain ⟨hentry, rfl⟩ := (Table.find_eq_some h.keyed).mp hfound
        rw [Option.map_some, Option.getD_some, h.arr entry hentry]
    simp only [Throughput.group, hiface, harr]
    refine ⟨Table.keyed_put h.keyed, fun entry hentry => ?_, fun other => ?_⟩
    · rcases (Table.mem_put h.keyed).mp hentry with rfl | ⟨hentry, hne⟩
      · rw [hsamples, hiface, if_pos rfl]
      · rw [hsamples, hiface, if_neg fun heq => hne (Option.some.inj heq).symm, List.append_nil,
          h.arr entry hentry]
    · rw [hkeys, ← h.keys, hiface, Table.map_key_put, Option.some_inj]
      by_cases hmem : iface ∈ table.map Prod.fst
      · rw [if_pos hmem]
        constructor
        · exact Or.inl
        · rintro (hother | rfl)
          · exact hother
          · exact hmem
      · rw [if_neg hmem, List.mem_append, List.mem_singleton, eq_comm (a := other)]

theorem grouped_byIface (samples : List Sample) : Grouped samples (byIface samples) := by
  induction samples using List.reverseRecOn with
  | nil => exact ⟨List.nodup_nil, (fun _ h => by cases h), fun _ => by simp [byIface, ifaces]⟩
  | append_singleton samples s ih =>
    rw [byIface, List.foldl_append]
    exact ih.group s

/-- What all interfaces add in a bucket. -/
def bucketTotal (o : Options) (d : Direction) (bi : Nat) (samples : List Sample) : ℚ :=
  ∑ iface ∈ ifaces samples, average o d bi (samplesOf iface samples)

theorem totals_eq (o : Options) (d : Direction) (samples : List Sample) :
    d.totals (totals o samples) =
      (List.range o.nBuckets).map fun bi => bucketTotal o d bi samples := by
  have hgrouped := grouped_byIface samples
  have hempty : Filled o [] { perBucketIface := List.replicate o.nBuckets [], hasData := false } := by
    refine ⟨List.length_replicate, fun m hm e he => ?_, fun d bi m hm => ?_⟩
    · rw [List.eq_of_mem_replicate hm] at he
      cases he
    · rw [List.eq_of_mem_replicate (List.mem_of_getElem? hm), total_eq_sum]
      rfl
  have hfilled : Filled o (byIface samples) (fill o samples) := hempty.foldl hgrouped.keyed
  have hsum : ∀ bi, ((byIface samples).map fun entry => average o d bi entry.2).sum =
      bucketTotal o d bi samples := by
    intro bi
    have hkeys : ((byIface samples).map Prod.fst).toFinset = ifaces samples := by
      ext iface
      rw [List.mem_toFinset, hgrouped.keys]
    rw [bucketTotal, ← hkeys, List.sum_toFinset _ hgrouped.keyed, List.map_map]
    congr 1
    exact List.map_congr_left fun entry hentry => by rw [hgrouped.arr entry hentry]; rfl
  have htotals : d.totals (totals o samples) = (fill o samples).perBucketIface.map d.total := by
    cases d <;> rfl
  rw [htotals]
  apply List.ext_getElem
  · rw [List.length_map, List.length_map, List.length_range, hfilled.length]
  · intro bi hbi _
    rw [List.getElem_map, List.getElem_map, List.getElem_range, ← hsum bi]
    exact hfilled.total d bi _ (List.getElem?_eq_getElem _)

end FireIsp.Throughput
