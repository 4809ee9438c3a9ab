import Mathlib.Order.Interval.Finset.Nat
import RemoteQuery.Paging
set_option autoImplicit false

/-! Pages of a ranking.  The numbers of a page are those whose quotient by the limit, when
one counts from zero, is that of the offset.  So pages never overlap, they leave nothing
out between them, and cutting rows by their numbers is dropping the pages before and taking
one page. -/

namespace RemoteQuery.Window

/-- The page of an offset goes from the first to the second of these row numbers. -/
def Ranges (limit offset : UInt64) (range : UInt64 × UInt64) : Prop :=
  rowRange { limit := some limit, offset := offset } = .ok (some range)

def covers (range : UInt64 × UInt64) (number : Nat) : Bool :=
  range.1.toNat ≤ number && number ≤ range.2.toNat

/-- The rows whose numbers are in a range.  Rows are numbered from one. -/
def rowsIn {α : Type} (range : UInt64 × UInt64) (rows : List α) : List α :=
  ((rows.zipIdx 1).filter fun row => covers range row.2).map Prod.fst

/-- The ranges of the pages at the offset zero, at the limit, at twice the limit, and on. -/
def Walk (limit : UInt64) (ranges : List (UInt64 × UInt64)) : Prop :=
  ∀ turn range, ranges[turn]? = some range →
    ∃ offset : UInt64, offset.toNat = turn * limit.toNat ∧ Ranges limit offset range

/-- Pages of this size tile a ranking. -/
structure TilesRanking (limit : UInt64) : Prop where
  /-- A page of rows is what is left behind the pages before it, up to the limit. -/
  cut : ∀ offset range, Ranges limit offset range → ∀ {α : Type} (rows : List α),
    rowsIn range rows
      = (rows.drop (limit.toNat * (offset.toNat / limit.toNat))).take limit.toNat
  /-- The offset counts from zero, and the row numbers count from one. -/
  around : ∀ offset range, Ranges limit offset range →
    covers range (offset.toNat + 1) = true ∧
      (Finset.Icc range.1.toNat range.2.toNat).card = limit.toNat
  equal_iff : ∀ offset range other otherRange, Ranges limit offset range →
    Ranges limit other otherRange →
    (range = otherRange ↔ offset.toNat / limit.toNat = other.toNat / limit.toNat)
  apart : ∀ offset range other otherRange, Ranges limit offset range →
    Ranges limit other otherRange → offset.toNat / limit.toNat ≠ other.toNat / limit.toNat →
    ∀ number, ¬ (covers range number = true ∧ covers otherRange number = true)
  next : ∀ offset range other otherRange, Ranges limit offset range →
    Ranges limit other otherRange → other.toNat = offset.toNat + limit.toNat →
    otherRange.1.toNat = range.2.toNat + 1
  /-- One can walk as far as there are row numbers. -/
  walkable : ∀ count, count * limit.toNat < UInt64.size →
    ∃ ranges, ranges.length = count ∧ Walk limit ranges
  once : ∀ ranges, Walk limit ranges → ∀ number, 1 ≤ number →
    number ≤ ranges.length * limit.toNat →
    ∃! turn : Nat, ∃ range, ranges[turn]? = some range ∧ covers range number = true
  walked : ∀ ranges, Walk limit ranges → ∀ {α : Type} (rows : List α),
    (ranges.flatMap fun range => rowsIn range rows) = rows.take (ranges.length * limit.toNat)

/-! ### Arithmetic on row numbers -/

theorem checkedAdd_eq_ok_iff {left right sum : UInt64} :
    checkedAdd left right = .ok sum ↔ sum.toNat = left.toNat + right.toNat := by
  have bound : sum.toNat < UInt64.size := sum.toNat_lt
  rw [checkedAdd]
  by_cases fits : left.toNat + right.toNat < UInt64.size
  · have exact : (left + right).toNat = left.toNat + right.toNat := by
      rw [UInt64.toNat_add]
      exact Nat.mod_eq_of_lt fits
    rw [if_pos fits, Except.ok.injEq, ← UInt64.toNat_inj, exact, eq_comm]
  · rw [if_neg fits]
    constructor
    · intro impossible
      cases impossible
    · intro same
      omega

theorem checkedMultiply_eq_ok_iff {left right product : UInt64} :
    checkedMultiply left right = .ok product ↔ product.toNat = left.toNat * right.toNat := by
  have bound : product.toNat < UInt64.size := product.toNat_lt
  rw [checkedMultiply]
  by_cases fits : left.toNat * right.toNat < UInt64.size
  · have exact : (left * right).toNat = left.toNat * right.toNat := by
      rw [UInt64.toNat_mul]
      exact Nat.mod_eq_of_lt fits
    rw [if_pos fits, Except.ok.injEq, ← UInt64.toNat_inj, exact, eq_comm]
  · rw [if_neg fits]
    constructor
    · intro impossible
      cases impossible
    · intro same
      omega

theorem bind_eq_ok_iff {ε α β : Type} {first : Except ε α} {next : α → Except ε β} {value : β} :
    (first >>= next) = .ok value ↔ ∃ between, first = .ok between ∧ next between = .ok value := by
  cases first with
  | error fault =>
      constructor
      · intro impossible
        cases impossible
      · rintro ⟨between, impossible, _⟩
        cases impossible
  | ok content =>
      constructor
      · intro ended
        exact ⟨content, rfl, ended⟩
      · rintro ⟨between, same, ended⟩
        cases same
        exact ended

theorem pageOf_eq_ok_iff {limit offset : UInt64} {range : UInt64 × UInt64} (positive : 0 < limit) :
    pageOf limit offset = .ok range ↔
      range.1.toNat = limit.toNat * (offset.toNat / limit.toNat) + 1 ∧
        range.2.toNat = limit.toNat * (offset.toNat / limit.toNat + 1) := by
  have quotient : (offset / limit).toNat = offset.toNat / limit.toNat := UInt64.toNat_div _ _
  have one : (1 : UInt64).toNat = 1 := rfl
  rw [pageOf]
  simp only [bind_eq_ok_iff, checkedAdd_eq_ok_iff, checkedMultiply_eq_ok_iff, quotient, one]
  constructor
  · rintro ⟨page, pageIs, start, startIs, first, firstIs, last, lastIs, same⟩
    have back : (page - 1).toNat = offset.toNat / limit.toNat := by
      rw [UInt64.toNat_sub_of_le page 1 (UInt64.le_iff_toNat_le.mpr (by omega)), pageIs, one,
        Nat.add_sub_cancel]
    cases same
    rw [firstIs, startIs, back, lastIs, pageIs]
    exact ⟨rfl, rfl⟩
  · rintro ⟨firstIs, lastIs⟩
    have bound : range.2.toNat < UInt64.size := range.2.toNat_lt
    have atLeast : offset.toNat / limit.toNat + 1
        ≤ limit.toNat * (offset.toNat / limit.toNat + 1) :=
      Nat.le_mul_of_pos_left _ (UInt64.lt_iff_toNat_lt.mp positive)
    have pageIs : (offset / limit + 1).toNat = offset.toNat / limit.toNat + 1 := by
      rw [UInt64.toNat_add, quotient, one]
      exact Nat.mod_eq_of_lt (atLeast.trans_lt (lastIs ▸ bound))
    have startIs : (range.1 - 1).toNat = limit.toNat * (offset.toNat / limit.toNat) := by
      rw [UInt64.toNat_sub_of_le range.1 1 (UInt64.le_iff_toNat_le.mpr (by omega)), firstIs, one,
        Nat.add_sub_cancel]
    have back : (offset / limit + 1 - 1).toNat = offset.toNat / limit.toNat := by
      rw [UInt64.toNat_sub_of_le _ 1 (UInt64.le_iff_toNat_le.mpr (by omega)), pageIs, one,
        Nat.add_sub_cancel]
    refine ⟨offset / limit + 1, pageIs, range.1 - 1, ?_, range.1, ?_, range.2, ?_, rfl⟩
    · rw [startIs, back]
    · rw [startIs, firstIs]
    · rw [pageIs, lastIs]

section Page

variable {limit offset : UInt64} {range : UInt64 × UInt64}

theorem ranges_iff (positive : 0 < limit) :
    Ranges limit offset range ↔
      range.1.toNat = limit.toNat * (offset.toNat / limit.toNat) + 1 ∧
        range.2.toNat = limit.toNat * (offset.toNat / limit.toNat + 1) := by
  have nonzero : limit ≠ 0 := fun zero => UInt64.lt_irrefl _ (zero ▸ positive)
  rw [← pageOf_eq_ok_iff positive, Ranges, rowRange]
  simp only [if_neg nonzero]
  cases pageOf limit offset with
  | error overflow =>
      constructor <;> intro impossible <;> cases impossible
  | ok page =>
      constructor
      · intro same
        cases same
        rfl
      · intro same
        cases same
        rfl

/-- A page has the numbers with the quotient of its offset. -/
theorem covers_iff (positive : 0 < limit) (ranges : Ranges limit offset range) (number : Nat) :
    covers range number = true ↔
      1 ≤ number ∧ (number - 1) / limit.toNat = offset.toNat / limit.toNat := by
  obtain ⟨first, last⟩ := (ranges_iff positive).mp ranges
  have nonzero : 0 < limit.toNat := UInt64.lt_iff_toNat_lt.mp positive
  rw [covers, Bool.and_eq_true, decide_eq_true_eq, decide_eq_true_eq, first, last,
    Nat.div_eq_iff nonzero, Nat.mul_comm limit.toNat, Nat.mul_comm limit.toNat, Nat.add_mul,
    Nat.one_mul]
  omega

private theorem card_range (positive : 0 < limit) (ranges : Ranges limit offset range) :
    (Finset.Icc range.1.toNat range.2.toNat).card = limit.toNat := by
  obtain ⟨first, last⟩ := (ranges_iff positive).mp ranges
  rw [Nat.card_Icc, first, last, Nat.mul_add, Nat.mul_one]
  omega

end Page

/-! ### Rows by their numbers -/

private theorem filter_zipIdx {α : Type} (range : UInt64 × UInt64) (rows : List α) (first : Nat) :
    ((rows.zipIdx first).filter fun row => covers range row.2).map Prod.fst
      = (rows.drop (range.1.toNat - first)).take (range.2.toNat + 1 - max range.1.toNat first) := by
  induction rows generalizing first with
  | nil => rw [List.zipIdx_nil, List.filter_nil, List.map_nil, List.drop_nil, List.take_nil]
  | cons row rest inductionHypothesis =>
      have onward := inductionHypothesis (first + 1)
      rw [List.zipIdx_cons]
      by_cases early : first < range.1.toNat
      · have outside : covers range first = false := by
          rw [covers, decide_eq_false (by omega), Bool.false_and]
        have skip : range.1.toNat - first = range.1.toNat - (first + 1) + 1 := by omega
        have same : max range.1.toNat first = max range.1.toNat (first + 1) := by omega
        rw [List.filter_cons, if_neg (Bool.eq_false_iff.mp outside), onward, skip,
          List.drop_succ_cons, same]
      · have begun : range.1.toNat - first = 0 := by omega
        have still : range.1.toNat - (first + 1) = 0 := by omega
        have here : max range.1.toNat first = first := by omega
        have behind : max range.1.toNat (first + 1) = first + 1 := by omega
        rw [still, behind, List.drop_zero] at onward
        rw [begun, here, List.drop_zero]
        by_cases late : range.2.toNat < first
        · have outside : covers range first = false := by
            rw [covers, decide_eq_false (p := first ≤ _) (by omega), Bool.and_false]
          have spent : range.2.toNat + 1 - first = 0 := by omega
          have done : range.2.toNat + 1 - (first + 1) = 0 := by omega
          rw [List.filter_cons, if_neg (Bool.eq_false_iff.mp outside), onward, spent, done,
            List.take_zero, List.take_zero]
        · have inside : covers range first = true := by
            rw [covers, decide_eq_true (by omega), decide_eq_true (by omega), Bool.and_true]
          have more : range.2.toNat + 1 - first = range.2.toNat + 1 - (first + 1) + 1 := by omega
          rw [List.filter_cons, if_pos inside, List.map_cons, onward, more, List.take_succ_cons]

theorem rowsIn_eq {limit offset : UInt64} {range : UInt64 × UInt64} (positive : 0 < limit)
    (ranges : Ranges limit offset range) {α : Type} (rows : List α) :
    rowsIn range rows
      = (rows.drop (limit.toNat * (offset.toNat / limit.toNat))).take limit.toNat := by
  obtain ⟨first, last⟩ := (ranges_iff positive).mp ranges
  have skipped : range.1.toNat - 1 = limit.toNat * (offset.toNat / limit.toNat) := by omega
  have taken : range.2.toNat + 1 - max range.1.toNat 1 = limit.toNat := by
    rw [last, Nat.mul_add, Nat.mul_one]
    omega
  rw [rowsIn, filter_zipIdx, skipped, taken]

/-! ### Walking over the pages -/

section Walking

variable {limit : UInt64} {ranges : List (UInt64 × UInt64)}

theorem Walk.exists_ranges (positive : 0 < limit) (walk : Walk limit ranges) {turn : Nat}
    {range : UInt64 × UInt64} (found : ranges[turn]? = some range) :
    ∃ offset, Ranges limit offset range ∧ offset.toNat / limit.toNat = turn := by
  obtain ⟨offset, offsetIs, ranged⟩ := walk turn range found
  refine ⟨offset, ranged, ?_⟩
  rw [offsetIs, Nat.mul_div_cancel _ (UInt64.lt_iff_toNat_lt.mp positive)]

private theorem exists_walk (positive : 0 < limit) {count : Nat}
    (bounded : count * limit.toNat < UInt64.size) :
    ∃ ranges, ranges.length = count ∧ Walk limit ranges := by
  have nonzero : 0 < limit.toNat := UInt64.lt_iff_toNat_lt.mp positive
  refine ⟨(List.range count).map fun turn =>
    (UInt64.ofNat (turn * limit.toNat + 1), UInt64.ofNat ((turn + 1) * limit.toNat)), ?_, ?_⟩
  · rw [List.length_map, List.length_range]
  · intro turn range found
    rw [List.getElem?_map, Option.map_eq_some_iff] at found
    obtain ⟨same, inside, rangeIs⟩ := found
    obtain ⟨within, rfl⟩ := List.getElem?_eq_some_iff.mp inside
    rw [List.length_range] at within
    rw [List.getElem_range] at rangeIs
    have last : (turn + 1) * limit.toNat < UInt64.size :=
      (Nat.mul_le_mul_right _ within).trans_lt bounded
    have onward : (turn + 1) * limit.toNat = turn * limit.toNat + limit.toNat :=
      Nat.succ_mul turn limit.toNat
    have offsetIs : (UInt64.ofNat (turn * limit.toNat)).toNat = turn * limit.toNat :=
      UInt64.toNat_ofNat_of_lt' (by omega)
    refine ⟨UInt64.ofNat (turn * limit.toNat), offsetIs, ?_⟩
    rw [ranges_iff positive, offsetIs, Nat.mul_div_cancel _ nonzero, ← rangeIs,
      UInt64.toNat_ofNat_of_lt' last, UInt64.toNat_ofNat_of_lt' (by omega), Nat.mul_comm turn,
      Nat.mul_comm (turn + 1)]
    exact ⟨rfl, rfl⟩

theorem Walk.existsUnique_turn (positive : 0 < limit) (walk : Walk limit ranges) {number : Nat}
    (counted : 1 ≤ number) (reached : number ≤ ranges.length * limit.toNat) :
    ∃! turn : Nat, ∃ range, ranges[turn]? = some range ∧ covers range number = true := by
  have nonzero : 0 < limit.toNat := UInt64.lt_iff_toNat_lt.mp positive
  have inside : (number - 1) / limit.toNat < ranges.length := by
    rw [Nat.div_lt_iff_lt_mul nonzero]
    omega
  refine ⟨(number - 1) / limit.toNat, ⟨ranges[(number - 1) / limit.toNat],
    List.getElem?_eq_getElem inside, ?_⟩, ?_⟩
  · obtain ⟨offset, ranged, turn⟩ :=
      walk.exists_ranges positive (List.getElem?_eq_getElem inside)
    rw [covers_iff positive ranged]
    exact ⟨counted, turn.symm⟩
  · rintro other ⟨range, found, covered⟩
    obtain ⟨offset, ranged, turn⟩ := walk.exists_ranges positive found
    rw [← turn]
    exact ((covers_iff positive ranged number).mp covered).2.symm

theorem Walk.flatMap_rowsIn (positive : 0 < limit) (walk : Walk limit ranges) {α : Type}
    (rows : List α) :
    (ranges.flatMap fun range => rowsIn range rows) = rows.take (ranges.length * limit.toNat) := by
  induction ranges using List.reverseRecOn with
  | nil => rw [List.flatMap_nil, List.length_nil, Nat.zero_mul, List.take_zero]
  | append_singleton earlier range inductionHypothesis =>
      have before : Walk limit earlier := by
        intro turn other found
        refine walk turn other ?_
        rw [List.getElem?_append_left (List.getElem?_eq_some_iff.mp found).1, found]
      obtain ⟨offset, ranged, turn⟩ :=
        walk.exists_ranges positive (List.getElem?_concat_length (l := earlier) (a := range))
      rw [List.flatMap_append, inductionHypothesis before, List.flatMap_singleton,
        rowsIn_eq positive ranged, turn, List.length_append, List.length_singleton, Nat.add_mul,
        Nat.one_mul, List.take_add, Nat.mul_comm]

end Walking

/-- Pages of any size but zero tile every ranking. -/
theorem tilesRanking {limit : UInt64} (positive : 0 < limit) : TilesRanking limit where
  cut := fun _ _ ranged _ rows => rowsIn_eq positive ranged rows
  around := by
    intro offset range ranged
    refine ⟨(covers_iff positive ranged _).mpr ⟨Nat.le_add_left _ _, ?_⟩,
      card_range positive ranged⟩
    rw [Nat.add_sub_cancel]
  equal_iff := by
    intro offset range other otherRange ranged otherRanged
    obtain ⟨first, last⟩ := (ranges_iff positive).mp ranged
    constructor
    · intro same
      have covered := (covers_iff positive ranged (offset.toNat + 1)).mpr
        ⟨Nat.le_add_left _ _, by rw [Nat.add_sub_cancel]⟩
      rw [same, covers_iff positive otherRanged, Nat.add_sub_cancel] at covered
      exact covered.2
    · intro same
      rw [same] at first last
      obtain ⟨otherFirst, otherLast⟩ := (ranges_iff positive).mp otherRanged
      exact Prod.ext (UInt64.toNat_inj.mp (first.trans otherFirst.symm))
        (UInt64.toNat_inj.mp (last.trans otherLast.symm))
  apart := by
    intro offset range other otherRange ranged otherRanged different number both
    have here := (covers_iff positive ranged number).mp both.1
    have there := (covers_iff positive otherRanged number).mp both.2
    exact different (here.2.symm.trans there.2)
  next := by
    intro offset range other otherRange ranged otherRanged shifted
    have quotient : other.toNat / limit.toNat = offset.toNat / limit.toNat + 1 := by
      rw [shifted, Nat.add_div_right _ (UInt64.lt_iff_toNat_lt.mp positive)]
    obtain ⟨_, last⟩ := (ranges_iff positive).mp ranged
    obtain ⟨first, _⟩ := (ranges_iff positive).mp otherRanged
    rw [first, last, quotient]
  walkable := fun _ bounded => exists_walk positive bounded
  once := fun _ walk _ counted reached => walk.existsUnique_turn positive counted reached
  walked := fun _ walk _ rows => walk.flatMap_rowsIn positive rows

theorem tilesRanking_ten :
    (0 : UInt64) < 10 ∧ TilesRanking 10 ∧
      Ranges 10 25 (21, 30) ∧ rowsIn (21, 30) (List.range' 1 24) = [21, 22, 23, 24] :=
  ⟨by decide, tilesRanking (by decide), rfl, by decide⟩

end RemoteQuery.Window
