import Mathlib
import Planar.Timings

/-! Durations in seconds and nanoseconds, and how those of the recorded stages of a run make up its
total. -/
namespace Planar

/-- A span of time: whole seconds, which a word holds, and the nanoseconds of one more that is not
over. -/
structure Duration where
  seconds : UInt64
  nanos : Nat
  nanos_lt : nanos < Timings.nanosPerSecond
  deriving DecidableEq

namespace Duration
variable {n : Nat}

def zero : Duration := ⟨0, 0, by decide⟩

def inNanos (d : Duration) : Nat := d.seconds.toNat * Timings.nanosPerSecond + d.nanos

/-- A span of so many nanoseconds, if a word holds its seconds. -/
def ofNanos? (n : Nat) : Option Duration :=
  if h : n / Timings.nanosPerSecond < UInt64.size then
    some ⟨.ofNatLT _ h, n % Timings.nanosPerSecond, Nat.mod_lt _ (by decide)⟩
  else none

/-- Adds seconds to seconds and nanoseconds to nanoseconds, of which a full second is carried. There
is no sum if a word does not hold its seconds. -/
def add? (a b : Duration) : Option Duration :=
  let nanos := a.nanos + b.nanos
  let seconds := a.seconds.toNat + b.seconds.toNat + nanos / Timings.nanosPerSecond
  if h : seconds < UInt64.size then
    some ⟨.ofNatLT seconds h, nanos % Timings.nanosPerSecond, Nat.mod_lt _ (by decide)⟩
  else none

/-- Adds one span after the other, as long as there are sums. -/
def sum? (spans : List Duration) : Option Duration := spans.foldlM add? zero

theorem inNanos_div (d : Duration) : d.inNanos / Timings.nanosPerSecond = d.seconds.toNat := by
  rw [inNanos, Nat.mul_comm, Nat.mul_add_div (by decide), Nat.div_eq_of_lt d.nanos_lt,
    Nat.add_zero]

theorem inNanos_mod (d : Duration) : d.inNanos % Timings.nanosPerSecond = d.nanos := by
  rw [inNanos, Nat.mul_comm, Nat.mul_add_mod, Nat.mod_eq_of_lt d.nanos_lt]

/-- A word holds the seconds of exactly the numbers below the limit. -/
theorem div_lt_iff : n / Timings.nanosPerSecond < UInt64.size ↔ n < Timings.limit :=
  Nat.div_lt_iff_lt_mul (by decide)

theorem inNanos_lt (d : Duration) : d.inNanos < Timings.limit := by
  rw [← div_lt_iff, inNanos_div]
  exact d.seconds.toNat_lt

theorem ofNanos?_inNanos (d : Duration) : ofNanos? d.inNanos = some d := by
  rw [ofNanos?, dif_pos (div_lt_iff.mpr d.inNanos_lt)]
  simp only [inNanos_div, inNanos_mod, UInt64.ofNatLT_toNat]

theorem inNanos_injective : Function.Injective inNanos := by
  intro a b h
  apply Option.some.inj
  rw [← ofNanos?_inNanos, h, ofNanos?_inNanos]

/-- There is a span for every number below the limit, and for no other. -/
theorem exists_inNanos_iff : (∃ d : Duration, d.inNanos = n) ↔ n < Timings.limit := by
  constructor
  · rintro ⟨d, rfl⟩
    exact d.inNanos_lt
  · intro h
    refine ⟨⟨.ofNatLT _ (div_lt_iff.mpr h), n % Timings.nanosPerSecond,
      Nat.mod_lt _ (by decide)⟩, ?_⟩
    rw [inNanos, UInt64.toNat_ofNatLT]
    exact Nat.div_add_mod' _ _

theorem ofNanos?_of_le (h : Timings.limit ≤ n) : ofNanos? n = none :=
  dif_neg (div_lt_iff.not.mpr h.not_gt)

theorem map_inNanos_ofNanos? (n : Nat) :
    (ofNanos? n).map inNanos = if n < Timings.limit then some n else none := by
  split
  · rename_i h
    obtain ⟨d, rfl⟩ := exists_inNanos_iff.mpr h
    rw [ofNanos?_inNanos, Option.map_some]
  · rename_i h
    rw [ofNanos?_of_le (not_lt.mp h), Option.map_none]

/-- Carrying loses nothing. -/
theorem add?_eq (a b : Duration) : add? a b = ofNanos? (a.inNanos + b.inNanos) := by
  have hsum : a.inNanos + b.inNanos = Timings.nanosPerSecond *
      (a.seconds.toNat + b.seconds.toNat) + (a.nanos + b.nanos) := by
    rw [inNanos, inNanos]
    ring
  have hseconds : (a.inNanos + b.inNanos) / Timings.nanosPerSecond =
      a.seconds.toNat + b.seconds.toNat + (a.nanos + b.nanos) / Timings.nanosPerSecond := by
    rw [hsum, Nat.mul_add_div (by decide)]
  have hnanos : (a.inNanos + b.inNanos) % Timings.nanosPerSecond =
      (a.nanos + b.nanos) % Timings.nanosPerSecond := by
    rw [hsum, Nat.mul_add_mod]
  simp only [add?, ofNanos?, hseconds, hnanos]

theorem foldlM_add?_eq (spans : List Duration) (start : Duration) :
    spans.foldlM add? start = ofNanos? (start.inNanos + (spans.map inNanos).sum) := by
  induction spans generalizing start with
  | nil =>
    rw [List.map_nil, List.sum_nil, Nat.add_zero]
    exact (ofNanos?_inNanos start).symm
  | cons d rest ih =>
    rw [List.foldlM_cons, add?_eq, List.map_cons, List.sum_cons, ← Nat.add_assoc]
    rcases lt_or_ge (start.inNanos + d.inNanos) Timings.limit with hlt | hge
    · obtain ⟨first, hfirst⟩ := exists_inNanos_iff.mpr hlt
      rw [← hfirst, ofNanos?_inNanos]
      exact ih first
    · -- what is too long already stays so
      rw [ofNanos?_of_le hge, ofNanos?_of_le (Nat.le_add_right_of_le hge)]
      rfl

theorem sum?_eq (spans : List Duration) : sum? spans = ofNanos? (spans.map inNanos).sum := by
  have hzero : zero.inNanos = 0 := by decide
  rw [sum?, foldlM_add?_eq, hzero, Nat.zero_add]

end Duration

namespace Timings
variable {name : String} {names : List String} {stages stages' : List Timing}

/-- Stages recorded by name, each with the time that it took. -/
def ofRecorded (recorded : List (String × Duration)) : Timings :=
  ⟨recorded.map fun r => ⟨r.1, r.2.inNanos⟩⟩

theorem sum_eq (stages : List Timing) : sum stages = (stages.map (·.nanos)).sum :=
  List.foldr_map.symm

theorem sum_perm (h : stages.Perm stages') : sum stages = sum stages' := by
  rw [sum_eq, sum_eq]
  exact (h.map _).sum_eq

theorem stage?_eq_none_iff (t : Timings) :
    t.stage? name = none ↔ name ∉ t.stages.map (·.stage) := by
  have hempty : t.stages.filter (·.stage = name) = [] ↔ name ∉ t.stages.map (·.stage) := by
    simp [List.filter_eq_nil_iff]
  rw [← hempty, stage?]
  split <;> simp_all

theorem stage?_of_mem {t : Timings} (h : name ∈ t.stages.map (·.stage)) :
    t.stage? name = some (sum (t.stages.filter (·.stage = name))) := by
  have hsome : t.stages.filter (·.stage = name) ≠ [] := by
    obtain ⟨s, hs, rfl⟩ := List.mem_map.mp h
    exact List.ne_nil_of_mem (List.mem_filter.mpr ⟨hs, decide_eq_true rfl⟩)
  rw [stage?, if_neg hsome]

/-- Every recording is in the share of one name. -/
theorem sum_shares (hnodup : names.Nodup) (hnames : ∀ s ∈ stages, s.stage ∈ names) :
    (names.map fun name => sum (stages.filter (·.stage = name))).sum = sum stages := by
  induction stages with
  | nil => simp [sum_eq]
  | cons s rest ih =>
    obtain ⟨hs, hrest⟩ := List.forall_mem_cons.mp hnames
    have hcount : names.count s.stage = 1 := List.count_eq_one_of_mem hnodup hs
    have hown : (names.map fun name => if s.stage = name then s.nanos else 0).sum = s.nanos := by
      rw [List.sum_map_eq_nsmul_single s.stage, hcount, one_nsmul, if_pos rfl]
      intro name hne _
      exact if_neg hne.symm
    have hshare : ∀ name, sum ((s :: rest).filter (·.stage = name)) =
        (if s.stage = name then s.nanos else 0) + sum (rest.filter (·.stage = name)) := by
      intro name
      by_cases h : s.stage = name <;> simp [h, sum_eq]
    simp only [hshare, List.sum_map_add, hown, ih hrest]
    rfl

theorem sum_filter_le (p : Timing → Bool) (stages : List Timing) :
    sum (stages.filter p) ≤ sum stages := by
  rw [sum_eq, sum_eq]
  exact (List.filter_sublist.map _).sum_le_sum fun n _ => n.zero_le

/-! ### The order of the recordings does not matter -/

theorem total?_perm {t t' : Timings} (h : t.stages.Perm t'.stages) : t'.total? = t.total? := by
  rw [total?, total?, sum_perm h]

theorem stage?_perm {t t' : Timings} (h : t.stages.Perm t'.stages) (name : String) :
    t'.stage? name = t.stage? name := by
  have hnames := (h.map (·.stage)).mem_iff (a := name)
  by_cases hmem : name ∈ t.stages.map (·.stage)
  · rw [stage?_of_mem hmem, stage?_of_mem (hnames.mp hmem), sum_perm (h.filter _)]
  · rw [(stage?_eq_none_iff t).mpr hmem, (stage?_eq_none_iff t').mpr (hnames.not.mp hmem)]

/-! ### Recorded durations -/

theorem sum_ofRecorded (recorded : List (String × Duration)) :
    sum (ofRecorded recorded).stages = (recorded.map fun r => r.2.inNanos).sum := by
  rw [sum_eq, ofRecorded, List.map_map]
  rfl

theorem names_ofRecorded (recorded : List (String × Duration)) :
    (ofRecorded recorded).stages.map (·.stage) = recorded.map Prod.fst := by
  rw [ofRecorded, List.map_map]
  rfl

theorem total?_ofRecorded (recorded : List (String × Duration)) : (ofRecorded recorded).total? =
    (Duration.sum? (recorded.map Prod.snd)).map Duration.inNanos := by
  rw [Duration.sum?_eq, Duration.map_inNanos_ofNanos?, total?, sum_ofRecorded, List.map_map]
  rfl

theorem total?_eq_none_iff (t : Timings) : t.total? = none ↔ limit ≤ sum t.stages := by
  rw [total?, ite_eq_right_iff, ← not_lt]
  simp

/-- Below the limit the share of a name is the total of its own recordings. -/
theorem stage?_ofRecorded {recorded : List (String × Duration)}
    (hlt : sum (ofRecorded recorded).stages < limit) (hname : name ∈ recorded.map Prod.fst) :
    (ofRecorded recorded).stage? name =
      (Duration.sum? ((recorded.filter (·.1 = name)).map Prod.snd)).map Duration.inNanos := by
  have hown : (ofRecorded recorded).stages.filter (·.stage = name) =
      (ofRecorded (recorded.filter (·.1 = name))).stages := List.filter_map
  have hle := sum_filter_le (·.stage = name) (ofRecorded recorded).stages
  rw [← names_ofRecorded] at hname
  rw [hown] at hle
  rw [stage?_of_mem hname, hown, ← total?_ofRecorded, total?, if_pos (hle.trans_lt hlt)]

/-- Every share is a duration then, and these add up. -/
theorem exists_shares {t : Timings} {total : Duration} (htotal : total.inNanos = sum t.stages)
    (hnodup : names.Nodup) (hnames : ∀ name, name ∈ names ↔ name ∈ t.stages.map (·.stage)) :
    ∃ shares : List Duration,
      names.map t.stage? = shares.map (fun share => some share.inNanos) ∧
      Duration.sum? shares = some total := by
  let share (name : String) : Nat := sum (t.stages.filter (·.stage = name))
  have hspans : names.map share ∈ Set.range (List.map Duration.inNanos) := by
    rw [Set.range_list_map]
    intro n hn
    obtain ⟨name, -, rfl⟩ := List.mem_map.mp hn
    exact Duration.exists_inNanos_iff.mpr
      (((sum_filter_le _ _).trans_eq htotal.symm).trans_lt total.inNanos_lt)
  obtain ⟨shares, hshares⟩ := hspans
  refine ⟨shares, ?_, ?_⟩
  · have hstages : names.map t.stage? = (names.map share).map some := by
      rw [List.map_map]
      exact List.map_congr_left fun name hname => stage?_of_mem ((hnames name).mp hname)
    rw [hstages, ← hshares, List.map_map]
    rfl
  · have hall : ∀ s ∈ t.stages, s.stage ∈ names := by
      intro s hs
      exact (hnames _).mpr (List.mem_map_of_mem hs)
    rw [Duration.sum?_eq, hshares, sum_shares hnodup hall, ← htotal]
    exact Duration.ofNanos?_inNanos total

end Timings

/-- The recordings of a run are shared out among the names they were made under. The total is the
sum of all durations, or missing where a word does not hold its seconds, never wrapped round. A name
has an answer if it was recorded. Below the limit that is the sum of its own recordings, and the
answers for the recorded names, each taken once, are durations that add up to the total, to the
nanosecond. No answer depends on the order of the recordings. -/
theorem stages_partition_total (recorded : List (String × Duration)) :
    let timings := Timings.ofRecorded recorded
    let whole := (recorded.map fun r => r.2.inNanos).sum
    timings.total? = (Duration.sum? (recorded.map Prod.snd)).map Duration.inNanos ∧
    (timings.total? = none ↔ Timings.limit ≤ whole) ∧
    (∀ name, timings.stage? name = none ↔ name ∉ recorded.map Prod.fst) ∧
    (whole < Timings.limit → ∀ name ∈ recorded.map Prod.fst, timings.stage? name =
      (Duration.sum? ((recorded.filter (·.1 = name)).map Prod.snd)).map Duration.inNanos) ∧
    (whole < Timings.limit → ∃ total : Duration, timings.total? = some total.inNanos ∧
      ∀ names : List String, names.Nodup →
        (∀ name, name ∈ names ↔ name ∈ recorded.map Prod.fst) →
        ∃ shares : List Duration,
          names.map timings.stage? = shares.map (fun share => some share.inNanos) ∧
          Duration.sum? shares = some total) ∧
    ∀ others, recorded.Perm others →
      (Timings.ofRecorded others).total? = timings.total? ∧
      ∀ name, (Timings.ofRecorded others).stage? name = timings.stage? name := by
  intro timings whole
  have hwhole : Timings.sum timings.stages = whole := Timings.sum_ofRecorded recorded
  have hnames : timings.stages.map (·.stage) = recorded.map Prod.fst :=
    Timings.names_ofRecorded recorded
  refine ⟨Timings.total?_ofRecorded recorded, ?_, ?_, ?_, ?_, ?_⟩
  · rw [← hwhole]
    exact timings.total?_eq_none_iff
  · intro name
    rw [← hnames]
    exact timings.stage?_eq_none_iff
  · intro hlt name hname
    rw [← hwhole] at hlt
    exact Timings.stage?_ofRecorded hlt hname
  · intro hlt
    obtain ⟨total, htotal⟩ := Duration.exists_inNanos_iff.mpr hlt
    rw [← hwhole] at hlt htotal
    refine ⟨total, (if_pos hlt).trans (congrArg some htotal.symm), ?_⟩
    intro names hnodup hmem
    rw [← hnames] at hmem
    exact Timings.exists_shares htotal hnodup hmem
  · intro others hothers
    have hperm : timings.stages.Perm (Timings.ofRecorded others).stages := hothers.map _
    exact ⟨Timings.total?_perm hperm, Timings.stage?_perm hperm⟩

/-- Six, seven and nine tenths of a second carry two whole ones. With one nanosecond more than the
longest duration there is no total. -/
theorem stages_partition_total_carry :
    let recorded : List (String × Duration) := [("resize", ⟨1, 600000000, by decide⟩),
      ("write", ⟨0, 700000000, by decide⟩), ("resize", ⟨2, 900000000, by decide⟩)]
    let long : List (String × Duration) := [("resize", ⟨0xffffffffffffffff, 999999999, by decide⟩),
      ("write", ⟨0, 1, by decide⟩)]
    let total : Duration := ⟨5, 200000000, by decide⟩
    let names := ["write", "resize"]
    ((recorded.map fun r => r.2.inNanos).sum < Timings.limit ∧ names.Nodup ∧
      (∀ name, name ∈ names ↔ name ∈ recorded.map Prod.fst) ∧
      "resize" ∈ recorded.map Prod.fst ∧ "decode" ∉ recorded.map Prod.fst ∧
      Timings.limit ≤ (long.map fun r => r.2.inNanos).sum) ∧
    (Timings.ofRecorded recorded).total? = some total.inNanos ∧
    (∃ shares : List Duration,
      names.map (Timings.ofRecorded recorded).stage? =
        shares.map (fun share => some share.inNanos) ∧
      Duration.sum? shares = some total) ∧
    (Timings.ofRecorded recorded).stage? "resize" = some 4500000000 ∧
    (Timings.ofRecorded recorded).stage? "decode" = none ∧
    (Timings.ofRecorded recorded.reverse).total? = some total.inNanos ∧
    (Timings.ofRecorded long).total? = none := by
  intro recorded long total names
  have hlt : (recorded.map fun r => r.2.inNanos).sum < Timings.limit := by decide
  have hnodup : names.Nodup := by decide
  have hnames : ∀ name, name ∈ names ↔ name ∈ recorded.map Prod.fst := by
    intro name
    simp only [names, recorded, List.map_cons, List.map_nil, List.mem_cons, List.not_mem_nil]
    tauto
  have hknown : "resize" ∈ recorded.map Prod.fst := by decide
  have hunknown : "decode" ∉ recorded.map Prod.fst := by decide
  have hlong : Timings.limit ≤ (long.map fun r => r.2.inNanos).sum := by decide
  have htotal : (Timings.ofRecorded recorded).total? = some total.inNanos := by decide
  obtain ⟨-, -, hnone, hown, hshared, horder⟩ := stages_partition_total recorded
  obtain ⟨-, hoverflow, -⟩ := stages_partition_total long
  obtain ⟨sum, hsum, hshares⟩ := hshared hlt
  obtain ⟨hreversed, -⟩ := horder _ recorded.reverse_perm.symm
  obtain rfl : sum = total :=
    Duration.inNanos_injective (Option.some.inj (hsum.symm.trans htotal))
  have hresize : Duration.sum? ((recorded.filter (·.1 = "resize")).map Prod.snd) =
      some ⟨4, 500000000, by decide⟩ := by decide
  have hanswer := hown hlt "resize" hknown
  rw [hresize] at hanswer
  exact ⟨⟨hlt, hnodup, hnames, hknown, hunknown, hlong⟩, htotal, hshares names hnodup hnames,
    hanswer, (hnone _).mpr hunknown, hreversed.trans htotal, hoverflow.mpr hlong⟩

end Planar
