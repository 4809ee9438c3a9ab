import RemoteQuery.Proofs.Paging
import RemoteQuery.Proofs.Statement.Prepared
set_option autoImplicit false

/-! Pages that leave 64 bits.  A page fails exactly when its last row number does not fit.
It fails by an addition only at the last offset of all, when the limit divides it; else the
last row number is a product that is too large.  Preparing a request overflows where its
page does and the statement has a ranking column, and nowhere else. -/

namespace RemoteQuery

namespace Window

theorem guarded_eq_error_iff {α : Type} {fits : Prop} [Decidable fits] {value : α}
    {fault overflow : Overflow} :
    (if fits then Except.ok value else Except.error fault) = .error overflow ↔
      overflow = fault ∧ ¬ fits := by
  by_cases holds : fits
  · simp [holds]
  · simp [holds, eq_comm]

theorem checkedAdd_eq_error_iff {left right : UInt64} {overflow : Overflow} :
    checkedAdd left right = .error overflow ↔
      overflow = .add ∧ 2 ^ 64 ≤ left.toNat + right.toNat := by
  unfold checkedAdd
  rw [guarded_eq_error_iff, Nat.not_lt]
  rfl

theorem checkedMultiply_eq_error_iff {left right : UInt64} {overflow : Overflow} :
    checkedMultiply left right = .error overflow ↔
      overflow = .multiply ∧ 2 ^ 64 ≤ left.toNat * right.toNat := by
  unfold checkedMultiply
  rw [guarded_eq_error_iff, Nat.not_lt]
  rfl

theorem bind_eq_error_iff {ε α β : Type} {first : Except ε α} {next : α → Except ε β} {fault : ε} :
    (first >>= next) = .error fault ↔
      first = .error fault ∨ ∃ between, first = .ok between ∧ next between = .error fault := by
  cases first with
  | error other =>
      change Except.error other = .error fault ↔ _
      simp
  | ok content =>
      change next content = .error fault ↔ _
      simp

section Page

variable {limit offset : UInt64}

/-- The last row number of a page, however large. -/
def lastNumber (limit offset : UInt64) : Nat :=
  limit.toNat * (offset.toNat / limit.toNat + 1)

private theorem pageOf_ok_of_fits (positive : 0 < limit) (fits : lastNumber limit offset < 2 ^ 64) :
    ∃ range, pageOf limit offset = .ok range ∧
      range.1.toNat = limit.toNat * (offset.toNat / limit.toNat) + 1 ∧
      range.2.toNat = lastNumber limit offset := by
  have nonzero : 0 < limit.toNat := UInt64.lt_iff_toNat_lt.mp positive
  have lastIs : lastNumber limit offset
      = limit.toNat * (offset.toNat / limit.toNat) + limit.toNat := by
    rw [lastNumber, Nat.mul_add, Nat.mul_one]
  let range := (UInt64.ofNat (limit.toNat * (offset.toNat / limit.toNat) + 1),
    UInt64.ofNat (lastNumber limit offset))
  have first : range.1.toNat = limit.toNat * (offset.toNat / limit.toNat) + 1 :=
    UInt64.toNat_ofNat_of_lt' (by change _ < 2 ^ 64; omega)
  have last : range.2.toNat = lastNumber limit offset :=
    UInt64.toNat_ofNat_of_lt' (by change _ < 2 ^ 64; omega)
  exact ⟨range, (pageOf_eq_ok_iff positive).mpr ⟨first, last⟩, first, last⟩

theorem pageOf_fails_iff (positive : 0 < limit) :
    (∃ overflow, pageOf limit offset = .error overflow) ↔ 2 ^ 64 ≤ lastNumber limit offset := by
  constructor
  · rintro ⟨overflow, failed⟩
    apply Nat.not_lt.mp
    intro fits
    obtain ⟨range, came, _⟩ := pageOf_ok_of_fits positive fits
    rw [failed] at came
    cases came
  · intro large
    cases came : pageOf limit offset with
    | error overflow => exact ⟨overflow, rfl⟩
    | ok range =>
        have last := ((pageOf_eq_ok_iff positive).mp came).2
        have bound := range.2.toNat_lt
        unfold lastNumber at large
        omega

/-- The pages before an offset never overflow, so that only two additions are left: one for
the number of the page, and one for its first row. -/
theorem pageOf_adds_iff (positive : 0 < limit) :
    pageOf limit offset = .error .add ↔
      offset.toNat = 2 ^ 64 - 1 ∧ limit.toNat ∣ 2 ^ 64 - 1 := by
  have nonzero : 0 < limit.toNat := UInt64.lt_iff_toNat_lt.mp positive
  have bound : offset.toNat < 2 ^ 64 := offset.toNat_lt
  have quotient : (offset / limit).toNat = offset.toNat / limit.toNat := UInt64.toNat_div _ _
  have one : (1 : UInt64).toNat = 1 := rfl
  have before : limit.toNat * (offset.toNat / limit.toNat) ≤ offset.toNat := Nat.mul_div_le _ _
  have pages : offset.toNat / limit.toNat ≤ limit.toNat * (offset.toNat / limit.toNat) :=
    Nat.le_mul_of_pos_left _ nonzero
  have back {page : UInt64} (pageIs : page.toNat = offset.toNat / limit.toNat + 1) :
      (page - 1).toNat = offset.toNat / limit.toNat := by
    rw [UInt64.toNat_sub_of_le page 1 (UInt64.le_iff_toNat_le.mpr (by omega)), pageIs, one,
      Nat.add_sub_cancel]
  unfold pageOf
  simp only [bind_eq_error_iff, checkedAdd_eq_ok_iff, checkedMultiply_eq_ok_iff,
    checkedAdd_eq_error_iff, checkedMultiply_eq_error_iff, quotient, one]
  constructor
  · rintro (⟨_, numbered⟩ | ⟨page, pageIs, failed⟩)
    · have whole : limit.toNat * (offset.toNat / limit.toNat) = 2 ^ 64 - 1 := by omega
      exact ⟨by omega, whole ▸ Nat.dvd_mul_right _ _⟩
    · rcases failed with ⟨impossible, _⟩ | ⟨start, startIs, failed⟩
      · cases impossible
      rw [back pageIs] at startIs
      rcases failed with ⟨_, first⟩ | ⟨first, firstIs, failed⟩
      · have whole : limit.toNat * (offset.toNat / limit.toNat) = 2 ^ 64 - 1 := by omega
        exact ⟨by omega, whole ▸ Nat.dvd_mul_right _ _⟩
      · rcases failed with ⟨impossible, _⟩ | ⟨last, _, impossible⟩ <;> cases impossible
  · rintro ⟨atEnd, divides⟩
    have whole : limit.toNat * (offset.toNat / limit.toNat) = 2 ^ 64 - 1 := by
      rw [atEnd, Nat.mul_div_cancel' divides]
    by_cases numbered : 2 ^ 64 ≤ offset.toNat / limit.toNat + 1
    · exact Or.inl ⟨trivial, numbered⟩
    · have pageIs : (offset / limit + 1).toNat = offset.toNat / limit.toNat + 1 := by
        rw [UInt64.toNat_add, quotient, one]
        exact Nat.mod_eq_of_lt (Nat.not_le.mp numbered)
      refine Or.inr ⟨offset / limit + 1, pageIs, Or.inr ⟨offset, ?_, Or.inl ⟨trivial, ?_⟩⟩⟩
      · rw [back pageIs, whole, atEnd]
      · omega

theorem rowRange_eq_error_iff (positive : 0 < limit) {overflow : Overflow} :
    rowRange { limit := some limit, offset := offset } = .error overflow ↔
      pageOf limit offset = .error overflow := by
  have nonzero : limit ≠ 0 := fun zero => UInt64.lt_irrefl _ (zero ▸ positive)
  simp only [rowRange, if_neg nonzero]
  cases pageOf limit offset with
  | error other =>
      change Except.error other = _ ↔ _
      simp
  | ok page => constructor <;> intro impossible <;> cases impossible

theorem pageOf_multiplies_iff (positive : 0 < limit) :
    pageOf limit offset = .error .multiply ↔
      2 ^ 64 ≤ lastNumber limit offset ∧
        ¬ (offset.toNat = 2 ^ 64 - 1 ∧ limit.toNat ∣ 2 ^ 64 - 1) := by
  rw [← pageOf_fails_iff positive, ← pageOf_adds_iff positive]
  constructor
  · intro failed
    refine ⟨⟨_, failed⟩, ?_⟩
    rw [failed]
    intro same
    cases same
  · rintro ⟨⟨overflow, failed⟩, notAdded⟩
    cases overflow with
    | add => exact absurd failed notAdded
    | multiply => exact failed

end Page

private theorem eq_of_message {overflow other : Overflow}
    (same : overflow.message = other.message) :
    overflow = other := by
  cases overflow with
  | add =>
      cases other with
      | add => rfl
      | multiply => exact absurd same (by decide)
  | multiply =>
      cases other with
      | add => exact absurd same (by decide)
      | multiply => rfl

end Window

namespace Connection

variable {connection : Connection} {request : Request}

/-- A request overflows by its page only, and only behind the check for a ranking column. -/
theorem prepare_eq_overflow_iff {overflow : Overflow} :
    connection.prepare request = .error (.overflow overflow) ↔
      ∃ limit offset, request.limit = some limit ∧ request.offset = some offset ∧
        Window.rowRange { limit := some limit, offset := offset } = .error overflow ∧
        Sql.hasRankingColumn
          (String.ofList (connection.bound request (connection.expanded request))) = true := by
  constructor
  · intro failed
    cases limited : request.limit with
    | none =>
        rw [sends_unlimited limited] at failed
        cases failed
    | some limit =>
        cases shifted : request.offset with
        | none =>
            rw [sends_limited limited shifted] at failed
            cases failed
        | some offset =>
            rw [prepare_of_window limited shifted] at failed
            cases ranked : Sql.hasRankingColumn
                (String.ofList (connection.bound request (connection.expanded request))) with
            | false =>
                rw [cutPage_unranked ranked] at failed
                cases failed
            | true =>
                refine ⟨limit, offset, rfl, rfl, ?_, rfl⟩
                by_cases zero : limit = 0
                · rw [zero, cutPage_zero ranked] at failed
                  cases failed
                · rcases rowRange_of_positive offset zero with
                      ⟨other, range⟩ | ⟨first, last, range⟩
                  · rw [cutPage_overflow ranked range] at failed
                    cases failed
                    exact range
                  · rw [cutPage_page ranked range] at failed
                    cases failed
  · rintro ⟨limit, offset, limited, shifted, range, ranked⟩
    rw [prepare_of_window limited shifted, cutPage_overflow ranked range]
    rfl

end Connection

/-- Where pages leave the row numbers, and which requests with them. -/
structure OverflowsExactly : Prop where
  /-- Without a limit, and for the limit zero, there is no page that could overflow. -/
  unpaged : ∀ window : Window, (∀ limit, window.limit = some limit → limit = 0) →
    window.rowRange = .ok none
  fails : ∀ limit offset : UInt64, 0 < limit →
    ((∃ overflow, Window.rowRange { limit := some limit, offset := offset } = .error overflow) ↔
      2 ^ 64 ≤ limit.toNat * (offset.toNat / limit.toNat + 1))
  adds : ∀ limit offset : UInt64, 0 < limit →
    ((∃ overflow, Window.rowRange { limit := some limit, offset := offset } = .error overflow ∧
        overflow.message = "attempt to add with overflow") ↔
      offset.toNat = 2 ^ 64 - 1 ∧ limit.toNat ∣ 2 ^ 64 - 1)
  multiplies : ∀ limit offset : UInt64, 0 < limit →
    ((∃ overflow, Window.rowRange { limit := some limit, offset := offset } = .error overflow ∧
        overflow.message = "attempt to multiply with overflow") ↔
      2 ^ 64 ≤ limit.toNat * (offset.toNat / limit.toNat + 1) ∧
        ¬ (offset.toNat = 2 ^ 64 - 1 ∧ limit.toNat ∣ 2 ^ 64 - 1))
  ranged : ∀ limit offset : UInt64, 0 < limit →
    limit.toNat * (offset.toNat / limit.toNat + 1) < 2 ^ 64 →
    ∃ range, Window.rowRange { limit := some limit, offset := offset } = .ok (some range) ∧
      range.1.toNat = limit.toNat * (offset.toNat / limit.toNat) + 1 ∧
      range.2.toNat = limit.toNat * (offset.toNat / limit.toNat + 1)
  prepared : ∀ (connection : Connection) (request : Request),
    ((∃ overflow, connection.prepare request = .error (.overflow overflow)) ↔
      ∃ limit offset, request.limit = some limit ∧ request.offset = some offset ∧ 0 < limit ∧
        2 ^ 64 ≤ limit.toNat * (offset.toNat / limit.toNat + 1) ∧
        Sql.hasRankingColumn
          (String.ofList (connection.bound request (connection.expanded request))) = true)
  /-- A request overflows in the way that its page does. -/
  alike : ∀ (connection : Connection) (request : Request) overflow,
    connection.prepare request = .error (.overflow overflow) →
    ∃ limit offset, request.limit = some limit ∧ request.offset = some offset ∧
      Window.rowRange { limit := some limit, offset := offset } = .error overflow

namespace Window

theorem rowRange_fails_with_iff {limit offset : UInt64} (positive : 0 < limit)
    (overflow : Overflow) :
    (∃ other, rowRange { limit := some limit, offset := offset } = .error other ∧
        other.message = overflow.message) ↔
      pageOf limit offset = .error overflow := by
  rw [← rowRange_eq_error_iff positive]
  constructor
  · rintro ⟨other, failed, same⟩
    rw [failed, eq_of_message same]
  · intro failed
    exact ⟨overflow, failed, rfl⟩

theorem rowRange_fails_iff {limit offset : UInt64} (positive : 0 < limit) :
    (∃ overflow, rowRange { limit := some limit, offset := offset } = .error overflow) ↔
      2 ^ 64 ≤ lastNumber limit offset := by
  rw [← pageOf_fails_iff positive]
  exact exists_congr fun overflow => rowRange_eq_error_iff positive

end Window

theorem overflowsExactly : OverflowsExactly where
  unpaged := by
    rintro ⟨limit, offset⟩ nothing
    cases limit with
    | none => rfl
    | some limit =>
        rw [nothing limit rfl]
        rfl
  fails := fun _ _ positive => Window.rowRange_fails_iff positive
  adds := by
    intro limit offset positive
    exact (Window.rowRange_fails_with_iff positive .add).trans (Window.pageOf_adds_iff positive)
  multiplies := by
    intro limit offset positive
    exact (Window.rowRange_fails_with_iff positive .multiply).trans
      (Window.pageOf_multiplies_iff positive)
  ranged := by
    intro limit offset positive fits
    obtain ⟨range, came, first, last⟩ := Window.pageOf_ok_of_fits positive fits
    exact ⟨range, (Window.ranges_iff positive).mpr ⟨first, last⟩, first, last⟩
  prepared := by
    intro connection request
    constructor
    · rintro ⟨overflow, failed⟩
      obtain ⟨limit, offset, limited, shifted, range, ranked⟩ :=
        Connection.prepare_eq_overflow_iff.mp failed
      have positive : 0 < limit := by
        apply UInt64.pos_iff_ne_zero.mpr
        intro zero
        rw [zero] at range
        cases range
      exact ⟨limit, offset, limited, shifted, positive,
        (Window.rowRange_fails_iff positive).mp ⟨overflow, range⟩, ranked⟩
    · rintro ⟨limit, offset, limited, shifted, positive, large, ranked⟩
      obtain ⟨overflow, range⟩ := (Window.rowRange_fails_iff positive).mpr large
      exact ⟨overflow, Connection.prepare_eq_overflow_iff.mpr
        ⟨limit, offset, limited, shifted, range, ranked⟩⟩
  alike := by
    intro connection request overflow failed
    obtain ⟨limit, offset, limited, shifted, range, _⟩ :=
      Connection.prepare_eq_overflow_iff.mp failed
    exact ⟨limit, offset, limited, shifted, range⟩

theorem overflowsExactly_atEnd :
    (∃ overflow,
      Window.rowRange { limit := some 5, offset := 0xFFFFFFFFFFFFFFFF } = .error overflow ∧
        overflow.message = "attempt to add with overflow") ∧
    (∃ overflow,
      Window.rowRange { limit := some 7, offset := 0xFFFFFFFFFFFFFFFF } = .error overflow ∧
        overflow.message = "attempt to multiply with overflow") :=
  ⟨(overflowsExactly.adds 5 0xFFFFFFFFFFFFFFFF (by decide)).mpr (by decide),
    (overflowsExactly.multiplies 7 0xFFFFFFFFFFFFFFFF (by decide)).mpr (by decide)⟩

end RemoteQuery
