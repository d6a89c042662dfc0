import FireIsp.Throughput.Averages

/-!
# Totals and the order of samples

Totals of samples of disjoint interfaces add up.  The order of samples matters where an interface has
several samples at one time, because then it decides which of them are neighbours: it does not matter
exactly if, for each interface and direction, either no counter ever grows or all samples at two
successive times tell the same.
-/

namespace FireIsp.Throughput

open Successive

variable {o : Options} {d : Direction} {bi : Nat}

theorem inOrder_perm (arr : List Sample) : (inOrder arr).Perm arr := List.perm_insertionSort _ _

theorem inOrder_sorted (arr : List Sample) :
    (inOrder arr).Pairwise fun a b => a.t ≤ b.t := by
  have htotal : Std.Total fun a b : Sample => a.t ≤ b.t := ⟨fun a b => le_total a.t b.t⟩
  have htrans : IsTrans Sample fun a b => a.t ≤ b.t := ⟨fun a b c => le_trans⟩
  exact List.pairwise_insertionSort _ arr

variable {arr : List Sample}

theorem inOrder_of_sorted (h : arr.Pairwise fun a b => a.t ≤ b.t) :
    inOrder arr = arr := h.insertionSort_eq

variable {arr' : List Sample}

theorem map_t_inOrder (h : arr'.Perm arr) :
    (inOrder arr').map Sample.t = (inOrder arr).map Sample.t := by
  refine List.Perm.eq_of_pairwise (fun a b _ _ => @le_antisymm Int _ a b) ?_ ?_
    ((((inOrder_perm arr').trans h).trans (inOrder_perm arr).symm).map _)
  · exact List.pairwise_map.mpr (inOrder_sorted arr')
  · exact List.pairwise_map.mpr (inOrder_sorted arr)

/-- A counter never grows between times, or the samples of two successive times agree. -/
def Settled (d : Direction) (arr : List Sample) : Prop :=
  (∀ a b, Consecutive Sample.t arr a b → d.counter b ≤ d.counter a) ∨
    ∀ a b a' b', Consecutive Sample.t arr a b → Consecutive Sample.t arr a' b' → a.t = a'.t →
      b.t = b'.t → increase d a b = increase d a' b'

variable {p q : Sample × Sample}

theorem endsIn_congr (hfst : p.1.t = q.1.t) (hsnd : p.2.t = q.2.t) :
    EndsIn o bi p ↔ EndsIn o bi q := by
  rw [EndsIn, EndsIn, hfst, hsnd]

theorem figure_congr (hfst : p.1.t = q.1.t) (hsnd : p.2.t = q.2.t)
    (h : p.1.t < p.2.t → increase d p.1 p.2 = increase d q.1 q.2) :
    figure o d bi p = figure o d bi q := by
  by_cases hends : EndsIn o bi p
  · rw [figure, figure, if_pos hends, if_pos ((endsIn_congr hfst hsnd).mp hends), h hends.1, seconds,
      seconds, hfst, hsnd]
  · rw [figure, figure, if_neg hends, if_neg fun h => hends ((endsIn_congr hfst hsnd).mpr h)]

theorem average_eq_zero (hperm : arr'.Perm arr)
    (h : ∀ a b, Consecutive Sample.t arr a b → d.counter b ≤ d.counter a) :
    average o d bi arr' = 0 := by
  apply mean_eq_zero
  intro x hx
  obtain ⟨⟨a, b⟩, hpair, rfl⟩ := List.mem_map.mp hx
  rw [figure]
  split_ifs with hends
  · have hle := h a b ((consecutive_of_mem_pairs (inOrder_sorted arr') hpair hends.1).perm
      ((inOrder_perm arr').trans hperm))
    rw [increase]
    split_ifs with hge
    · simp [le_antisymm hle hge]
    · rfl
  · rfl

theorem Settled.average_perm (h : Settled d arr) (hperm : arr'.Perm arr) :
    average o d bi arr' = average o d bi arr := by
  rcases h with h | h
  · rw [average_eq_zero hperm h, average_eq_zero (List.Perm.refl arr) h]
  · have hfigures : (pairs (inOrder arr')).map (figure o d bi) =
        (pairs (inOrder arr)).map (figure o d bi) := by
      rw [← List.forall₂_eq_eq_eq, List.forall₂_map_left_iff, List.forall₂_map_right_iff]
      refine (forall₂_pairs (map_t_inOrder hperm)).imp fun p q hpq => ?_
      obtain ⟨hp, hq, hfst, hsnd⟩ := hpq
      refine figure_congr hfst hsnd fun hlt => ?_
      have hp' := (consecutive_of_mem_pairs (inOrder_sorted arr') hp hlt).perm
        ((inOrder_perm arr').trans hperm)
      have hq' := (consecutive_of_mem_pairs (inOrder_sorted arr) hq (hfst ▸ hsnd ▸ hlt)).perm
        (inOrder_perm arr)
      exact h _ _ _ _ hp' hq' hfst hsnd
    rw [average, average, hfigures]

/-- The rate between two samples. -/
def rate (d : Direction) (pair : Sample × Sample) : Option ℚ :=
  (increase d pair.1 pair.2).map fun gain : Int => (gain : ℚ) * 8 / seconds pair.1 pair.2

/-- A single bucket. -/
def window (first last : Int) : Options := { fromMs := first, toMs := last, buckets := 1 }

theorem endsIn_window {first last : Int} :
    EndsIn (window first last) 0 p ↔ p.1.t < p.2.t ∧ first ≤ p.2.t ∧ p.2.t < last := by
  have hbucket : (window first last).bucketOf p.2.t = 0 := Nat.min_eq_left (Nat.zero_le _)
  rw [EndsIn, hbucket]
  simp only [window, Int.cast_le, Int.cast_lt, and_true]

theorem average_single (hsorted : arr.Pairwise fun a b => a.t ≤ b.t) (hp : p ∈ pairs arr)
    (hlt : p.1.t < p.2.t) :
    average (window p.2.t (p.2.t + 1)) d 0 arr = (rate d p).getD 0 := by
  obtain ⟨a, b⟩ := p
  rw [average, inOrder_of_sorted hsorted]
  apply mean_of_known
  obtain ⟨ahead, behind, rfl⟩ := mem_pairs.mp hp
  obtain ⟨hahead, hbehind⟩ := le_of_cut hsorted
  have hbefore : ∀ x ∈ (pairs (ahead ++ [a])).map (figure (window b.t (b.t + 1)) d 0), x = none := by
    intro x hx
    obtain ⟨⟨y, z⟩, hyz, rfl⟩ := List.mem_map.mp hx
    obtain ⟨first, last, heq⟩ := mem_pairs.mp hyz
    have hz := hahead z (by rw [heq]; simp)
    rw [figure, if_neg]
    intro hends
    exact absurd (endsIn_window.mp hends).2.1 (by dsimp only at hlt ⊢; omega)
  have hafter : ∀ x ∈ (pairs (b :: behind)).map (figure (window b.t (b.t + 1)) d 0), x = none := by
    intro x hx
    obtain ⟨⟨y, z⟩, hyz, rfl⟩ := List.mem_map.mp hx
    obtain ⟨first, last, heq⟩ := mem_pairs.mp hyz
    have hy := hbehind y (by rw [heq]; simp)
    rw [figure, if_neg]
    intro hends
    obtain ⟨hyz, -, hz⟩ := endsIn_window.mp hends
    dsimp only at hyz hz
    omega
  have hhere : figure (window b.t (b.t + 1)) d 0 (a, b) = rate d (a, b) :=
    if_pos (endsIn_window.mpr ⟨hlt, le_refl _, Int.lt_succ _⟩)
  rw [pairs_append, List.map_append, List.map_cons, known_append, known_cons, known_eq_nil hbefore,
    known_eq_nil hafter, hhere, List.nil_append, List.append_nil]

/-- The earlier sample comes first, at one time that of the greater counter. -/
def Before (counter : Sample → Int) (a b : Sample) : Prop :=
  a.t < b.t ∨ a.t = b.t ∧ counter b ≤ counter a

instance (counter : Sample → Int) (a b : Sample) : Decidable (Before counter a b) :=
  inferInstanceAs (Decidable (_ ∨ _))

/-- Samples by time, and by falling counters where times are equal. -/
def arranged (counter : Sample → Int) (arr : List Sample) : List Sample :=
  arr.insertionSort (Before counter)

theorem arranged_perm (counter : Sample → Int) (arr : List Sample) :
    (arranged counter arr).Perm arr := List.perm_insertionSort _ _

theorem arranged_sorted (counter : Sample → Int) (arr : List Sample) :
    (arranged counter arr).Pairwise fun a b => a.t < b.t ∨ a.t = b.t ∧ counter b ≤ counter a := by
  have htotal : Std.Total (Before counter) := ⟨fun a b => by unfold Before; omega⟩
  have htrans : IsTrans Sample (Before counter) := ⟨fun a b c => by unfold Before; omega⟩
  exact List.pairwise_insertionSort (Before counter) arr

theorem arranged_sorted_t (counter : Sample → Int) (arr : List Sample) :
    (arranged counter arr).Pairwise fun a b => a.t ≤ b.t :=
  (arranged_sorted counter arr).imp fun h => h.elim le_of_lt fun h => h.1.le

variable {a b : Sample}

theorem extreme_of_pairs (hp : p ∈ pairs (arranged d.counter arr))
    (hq : q ∈ pairs (arranged (fun s => -d.counter s) arr)) (hfst : p.1.t = q.1.t)
    (hsnd : p.2.t = q.2.t) (hlt : p.1.t < p.2.t) (ha : a ∈ arr) (hb : b ∈ arr) (hat : a.t = p.1.t)
    (hbt : b.t = p.2.t) :
    d.counter p.1 ≤ d.counter a ∧ d.counter a ≤ d.counter q.1 ∧
      d.counter q.2 ≤ d.counter b ∧ d.counter b ≤ d.counter p.2 := by
  have hmax := fun x (hx : x ∈ arr) => extreme_of_mem_pairs (arranged_sorted d.counter arr) hp hlt
    ((arranged_perm _ arr).mem_iff.mpr hx)
  have hmin := fun x (hx : x ∈ arr) => extreme_of_mem_pairs
    (arranged_sorted (fun s => -d.counter s) arr) hq (hfst ▸ hsnd ▸ hlt)
    ((arranged_perm _ arr).mem_iff.mpr hx)
  have h1 := (hmax a ha).1 hat
  have h2 := (hmin a ha).1 (hat.trans hfst)
  have h3 := (hmin b hb).2 (hbt.trans hsnd)
  have h4 := (hmax b hb).2 hbt
  omega

theorem increase_squeezed (h : d.counter p.1 ≤ d.counter a ∧ d.counter a ≤ d.counter q.1 ∧
      d.counter q.2 ≤ d.counter b ∧ d.counter b ≤ d.counter p.2)
    (hsame : increase d p.1 p.2 = increase d q.1 q.2) : increase d a b = increase d p.1 p.2 := by
  obtain ⟨h1, h2, h3, h4⟩ := h
  simp only [increase] at hsame ⊢
  split_ifs at hsame ⊢ with hp hq hab hab
  · rw [Option.some.injEq] at hsame ⊢
    omega
  · omega
  · omega
  · rfl

theorem seconds_pos (h : a.t < b.t) : 0 < seconds a b := by
  rw [← not_le, seconds_le_zero]
  omega

theorem increase_of_rate (hfst : p.1.t = q.1.t) (hsnd : p.2.t = q.2.t) (hlt : p.1.t < p.2.t)
    (h : rate d p = rate d q) :
    increase d p.1 p.2 = increase d q.1 q.2 := by
  have hseconds : seconds q.1 q.2 = seconds p.1 p.2 := by rw [seconds, seconds, hfst, hsnd]
  rw [rate, rate, hseconds] at h
  refine Option.map_injective (fun x y hxy => ?_) h
  have hpos := (seconds_pos hlt).ne'
  rw [div_left_inj' hpos] at hxy
  exact_mod_cast mul_right_cancel₀ (by norm_num) hxy

theorem rate_nonneg (hlt : p.1.t < p.2.t) : 0 ≤ (rate d p).getD 0 := by
  rw [rate, increase]
  split_ifs with h
  · rw [Option.map_some, Option.getD_some]
    have hgain : (0 : ℚ) ≤ ((d.counter p.2 - d.counter p.1 : Int) : ℚ) := by
      exact_mod_cast sub_nonneg.mpr h
    have hpos := seconds_pos hlt
    positivity
  · exact le_refl _

theorem rate_pos (hlt : p.1.t < p.2.t) (h : d.counter p.1 < d.counter p.2) :
    0 < (rate d p).getD 0 := by
  rw [rate, increase, if_pos h.le, Option.map_some, Option.getD_some]
  have hgain : (0 : ℚ) < ((d.counter p.2 - d.counter p.1 : Int) : ℚ) := by
    exact_mod_cast sub_pos.mpr h
  have hpos := seconds_pos hlt
  positivity

theorem exists_bound (arr : List Sample) : ∃ bound, ∀ s ∈ arr, -bound ≤ s.t ∧ s.t < bound := by
  induction arr with
  | nil => exact ⟨0, fun s hs => absurd hs List.not_mem_nil⟩
  | cons s arr ih =>
    obtain ⟨bound, hbound⟩ := ih
    refine ⟨max bound (|s.t| + 1), fun x hx => ?_⟩
    have hs := abs_lt.mp (Int.lt_succ |s.t|)
    rcases List.mem_cons.mp hx with rfl | hx
    · omega
    · have hx := hbound x hx
      omega

theorem settled_of_average (h : ∀ o : Options, average o d 0 (arranged d.counter arr) =
      average o d 0 (arranged (fun s => -d.counter s) arr)) : Settled d arr := by
  obtain ⟨bound, hbound⟩ := exists_bound arr
  have hfalling := arranged_sorted_t d.counter arr
  have hrising := arranged_sorted_t (fun s => -d.counter s) arr
  have hperm := (arranged_perm d.counter arr).trans (arranged_perm (fun s => -d.counter s) arr).symm
  have htimes := map_t_inOrder hperm
  rw [inOrder_of_sorted hfalling, inOrder_of_sorted hrising] at htimes
  have haligned := forall₂_pairs htimes
  have hfigure : ∀ {arr' : List Sample}, arr'.Perm arr → ∀ p ∈ pairs arr',
      figure (window (-bound) bound) d 0 p = if p.1.t < p.2.t then rate d p else none := by
    intro arr' hperm p hp
    obtain ⟨ahead, behind, heq⟩ := mem_pairs.mp hp
    have hmem : p.2 ∈ arr := hperm.mem_iff.mp (by rw [heq]; simp)
    rw [figure]
    by_cases hlt : p.1.t < p.2.t
    · rw [if_pos (endsIn_window.mpr ⟨hlt, hbound _ hmem⟩), if_pos hlt, rate]
    · rw [if_neg fun hends => hlt (endsIn_window.mp hends).1, if_neg hlt]
  by_cases hgrows : ∀ a b, Consecutive Sample.t arr a b → d.counter b ≤ d.counter a
  · exact Or.inl hgrows
  have hmemPairs : ∀ {arr' : List Sample}, arr'.Perm arr → ∀ p ∈ pairs arr', p.1 ∈ arr ∧ p.2 ∈ arr := by
    intro arr' hperm p hp
    obtain ⟨ahead, behind, heq⟩ := mem_pairs.mp hp
    exact ⟨hperm.mem_iff.mp (by rw [heq]; simp), hperm.mem_iff.mp (by rw [heq]; simp)⟩
  have hrelated : List.Forall₂ (fun x y => x.getD 0 = y.getD 0 ∧ (y.isSome → x.isSome))
      ((pairs (arranged d.counter arr)).map (figure (window (-bound) bound) d 0))
      ((pairs (arranged (fun s => -d.counter s) arr)).map (figure (window (-bound) bound) d 0)) := by
    rw [List.forall₂_map_left_iff, List.forall₂_map_right_iff]
    refine haligned.imp fun p q hpq => ?_
    obtain ⟨hp, hq, hfst, hsnd⟩ := hpq
    rw [hfigure (arranged_perm _ _) p hp, hfigure (arranged_perm _ _) q hq, ← hfst, ← hsnd]
    split_ifs with hlt
    · constructor
      · rw [← average_single hfalling hp hlt, ← average_single hrising hq (hfst ▸ hsnd ▸ hlt), hsnd]
        exact h _
      · obtain ⟨hq1, hq2⟩ := hmemPairs (arranged_perm _ _) q hq
        have hextreme := extreme_of_pairs hp hq hfst hsnd hlt hq1 hq2 hfst.symm hsnd.symm
        intro hsome
        rw [rate, Option.isSome_map, increase] at hsome ⊢
        split_ifs at hsome with hle
        · rw [if_pos (by omega)]
          rfl
        · cases hsome
    · exact ⟨rfl, id⟩
  have hsum : (known ((pairs (arranged d.counter arr)).map
      (figure (window (-bound) bound) d 0))).sum ≠ 0 := by
    push Not at hgrows
    obtain ⟨a, b, hab, hgrow⟩ := hgrows
    obtain ⟨p, hp, hpa, hpb⟩ := (hab.perm (arranged_perm d.counter arr).symm).exists_mem_pairs hfalling
    have hlt : p.1.t < p.2.t := by rw [hpa, hpb]; exact hab.2.2.1
    have hleft := (extreme_of_mem_pairs (arranged_sorted d.counter arr) hp hlt
      ((arranged_perm _ arr).mem_iff.mpr hab.1)).1 hpa.symm
    have hright := (extreme_of_mem_pairs (arranged_sorted d.counter arr) hp hlt
      ((arranged_perm _ arr).mem_iff.mpr hab.2.1)).2 hpb.symm
    have hpos := rate_pos hlt (hleft.trans_lt (hgrow.trans_le hright))
    rw [sum_known]
    refine (hpos.trans_le (List.single_le_sum (fun x hx => ?_) _ ?_)).ne'
    · obtain ⟨figure', hfigure', rfl⟩ := List.mem_map.mp hx
      obtain ⟨q, hq, rfl⟩ := List.mem_map.mp hfigure'
      rw [hfigure (arranged_perm _ _) q hq]
      split_ifs with hlt'
      · exact rate_nonneg hlt'
      · exact le_refl _
    · rw [List.map_map, List.mem_map]
      refine ⟨p, hp, ?_⟩
      rw [Function.comp, hfigure (arranged_perm _ _) p hp, if_pos hlt]
  have hmean := h (window (-bound) bound)
  rw [average, average, inOrder_of_sorted hfalling, inOrder_of_sorted hrising] at hmean
  have hfigures := eq_of_mean hrelated hmean hsum
  refine Or.inr fun a b a' b' hab hab' hat hbt => ?_
  obtain ⟨p, hp, hpa, hpb⟩ := (hab.perm (arranged_perm d.counter arr).symm).exists_mem_pairs hfalling
  obtain ⟨q, hq, ⟨-, -, hfst, hsnd⟩, heq⟩ := exists_related haligned hfigures hp
  have hlt : p.1.t < p.2.t := by rw [hpa, hpb]; exact hab.2.2.1
  rw [hfigure (arranged_perm _ _) p hp, hfigure (arranged_perm _ _) q hq, if_pos hlt,
    if_pos (hfst ▸ hsnd ▸ hlt)] at heq
  have hsame := increase_of_rate hfst hsnd hlt heq
  rw [increase_squeezed (extreme_of_pairs hp hq hfst hsnd hlt hab.1 hab.2.1 hpa.symm hpb.symm) hsame,
    increase_squeezed (extreme_of_pairs hp hq hfst hsnd hlt hab'.1 hab'.2.1 (hat ▸ hpa.symm)
      (hbt ▸ hpb.symm)) hsame]

def Totals.add (a b : Totals) : Totals where
  inTotals := a.inTotals.zipWith (· + ·) b.inTotals
  outTotals := a.outTotals.zipWith (· + ·) b.outTotals

/-- The totals do not depend on the order of the samples. -/
def OrderIndependent (samples : List Sample) : Prop :=
  ∀ o other, other.Perm samples → totals o other = totals o samples

/-- The totals with samples of other interfaces are sums. -/
def Additive (samples : List Sample) : Prop :=
  ∀ o other, Disjoint (ifaces samples) (ifaces other) →
    totals o (samples ++ other) = (totals o samples).add (totals o other)

theorem totals_ext {a b : Totals} (h : ∀ d : Direction, d.totals a = d.totals b) : a = b := by
  obtain ⟨hin, hout⟩ := And.intro (h .inward) (h .outward)
  cases a
  cases b
  exact congrArg₂ Totals.mk hin hout

theorem samplesOf_append (iface : String) (samples other : List Sample) :
    samplesOf iface (samples ++ other) = samplesOf iface samples ++ samplesOf iface other :=
  List.filter_append ..

theorem bucketTotal_append {samples other : List Sample}
    (h : Disjoint (ifaces samples) (ifaces other)) :
    bucketTotal o d bi (samples ++ other) =
      bucketTotal o d bi samples + bucketTotal o d bi other := by
  have hunion : ifaces (samples ++ other) = ifaces samples ∪ ifaces other := by
    ext iface
    simp only [mem_ifaces, Finset.mem_union, List.mem_append, or_and_right, exists_or]
  rw [bucketTotal, hunion, Finset.sum_union h]
  congr 1
  · refine Finset.sum_congr rfl fun iface hiface => ?_
    rw [samplesOf_append, samplesOf_eq_nil (Finset.disjoint_left.mp h hiface), List.append_nil]
  · refine Finset.sum_congr rfl fun iface hiface => ?_
    rw [samplesOf_append, samplesOf_eq_nil (Finset.disjoint_right.mp h hiface), List.nil_append]

theorem totals_additive (samples : List Sample) : Additive samples := by
  intro o other h
  apply totals_ext
  intro d
  have hadd : d.totals ((totals o samples).add (totals o other)) =
      (d.totals (totals o samples)).zipWith (· + ·) (d.totals (totals o other)) := by
    cases d <;> rfl
  rw [hadd, totals_eq, totals_eq, totals_eq, List.zipWith_map, List.zipWith_self]
  exact List.map_congr_left fun bi _ => bucketTotal_append h

theorem bucketTotal_single {iface : String} (h : ∀ s ∈ arr, s.iface = some iface) :
    bucketTotal o d bi arr = average o d bi arr := by
  have hself : samplesOf iface arr = arr := by
    rw [samplesOf, List.filter_eq_self]
    exact fun s hs => decide_eq_true (h s hs)
  have hsub : ifaces arr ⊆ {iface} := by
    intro other hother
    obtain ⟨s, hs, hiface⟩ := mem_ifaces.mp hother
    exact Finset.mem_singleton.mpr (Option.some.inj (hiface.symm.trans (h s hs)))
  rw [bucketTotal, Finset.sum_subset hsub, Finset.sum_singleton, hself]
  intro other _ hnot
  rw [samplesOf_eq_nil hnot]
  exact mean_eq_zero fun figure hfigure => absurd hfigure List.not_mem_nil

theorem OrderIndependent.average {samples : List Sample} (h : OrderIndependent samples)
    (iface : String) (hperm : arr.Perm (samplesOf iface samples)) (o : Options) :
    Throughput.average o d 0 arr = Throughput.average o d 0 (samplesOf iface samples) := by
  have hpart : ∀ {arr : List Sample}, arr.Perm (samplesOf iface samples) →
      bucketTotal o d 0 samples = Throughput.average o d 0 arr +
        bucketTotal o d 0 (samples.filter fun s => !decide (s.iface = some iface)) := by
    intro arr hperm
    have hown : ∀ s ∈ arr, s.iface = some iface := fun s hs =>
      of_decide_eq_true (List.mem_filter.mp (hperm.mem_iff.mp hs)).2
    have hdisjoint : Disjoint (ifaces arr)
        (ifaces (samples.filter fun s => !decide (s.iface = some iface))) := by
      rw [Finset.disjoint_left]
      intro other hother hrest
      obtain ⟨s, hs, hiface⟩ := mem_ifaces.mp hother
      obtain ⟨s', hs', hiface'⟩ := mem_ifaces.mp hrest
      have hne := (List.mem_filter.mp hs').2
      rw [hiface', ← hiface, hown s hs, decide_eq_true rfl] at hne
      cases hne
    have hwhole : (arr ++ samples.filter fun s => !decide (s.iface = some iface)).Perm samples :=
      (hperm.append_right _).trans (List.filter_append_perm _ samples)
    have hsame := congrArg d.totals (h o _ hwhole)
    rw [totals_eq, totals_eq] at hsame
    have hbucket := List.map_inj_left.mp hsame 0 (List.mem_range.mpr o.nBuckets_pos)
    rw [← hbucket, bucketTotal_append hdisjoint, bucketTotal_single hown]
  exact add_right_cancel ((hpart hperm).symm.trans (hpart (List.Perm.refl _)))

/-- Totals do not depend on the order of samples exactly if every interface is settled. -/
theorem order_independent_iff (samples : List Sample) :
    OrderIndependent samples ∧ Additive samples ↔
      ∀ iface d, Settled d (samplesOf iface samples) := by
  constructor
  · rintro ⟨h, -⟩ iface d
    apply settled_of_average
    intro o
    rw [h.average iface (arranged_perm _ _), h.average iface (arranged_perm _ _)]
  · intro h
    refine ⟨fun o other hperm => totals_ext fun d => ?_, totals_additive samples⟩
    have hifaces : ifaces other = ifaces samples := by
      ext iface
      simp only [mem_ifaces, hperm.mem_iff]
    rw [totals_eq, totals_eq]
    refine List.map_congr_left fun bi _ => ?_
    rw [bucketTotal, bucketTotal, hifaces]
    exact Finset.sum_congr rfl fun iface _ => (h iface d).average_perm (hperm.filter _)

def sampleAt (t inO : Int) : Sample := { iface := some "1:1", t, inO, outO := 0 }

/-- Samples, two of them at one time. -/
def ordered : List Sample := [sampleAt 0 0, sampleAt 10 100, sampleAt 10 200, sampleAt 20 300]

/-- The same samples, those two the other way round. -/
def swapped : List Sample := [sampleAt 0 0, sampleAt 10 200, sampleAt 10 100, sampleAt 20 300]

/-- Two buckets of 50 milliseconds. -/
def sampleOptions : Options := { fromMs := 0, toMs := 100, buckets := 2 }

/-- The series depends on which of two samples at one time comes first. -/
theorem order_matters :
    swapped.Perm ordered ∧ totals sampleOptions ordered = ⟨[80000, 0], [0, 0]⟩ ∧
      totals sampleOptions swapped = ⟨[160000, 0], [0, 0]⟩ ∧
      (aggregateThroughput ordered sampleOptions).points ≠
        (aggregateThroughput swapped sampleOptions).points := by
  decide +kernel

end FireIsp.Throughput
