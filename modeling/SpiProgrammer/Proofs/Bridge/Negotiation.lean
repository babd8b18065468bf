import SpiProgrammer.Bridge.Peer
import SpiProgrammer.Proofs.Session.Logging

/-! # The clock that is settled

The divisor of a clock is the least that bounds the ratio of the two frequencies, as far as there
is one.  The ratio is rounded down before it is compared, so the settled clock can be faster than
it was wanted: by one part in the divisor at most, unless even the slowest clock is too fast.

Main statement: the settled clock is the best that the divisors allow, divisor and frequency follow
the frequencies that they are made from, and a warning is given exactly if the clock is faster than
it was wanted. -/
set_option autoImplicit false

namespace SpiProgrammer.Bridge

/-! ## Divisors -/

namespace Prescaler

theorem divisor_pos (prescaler : Prescaler) : 0 < prescaler.divisor := by
  unfold divisor
  rw [Nat.shiftLeft_eq]
  exact Nat.mul_pos Nat.two_pos (Nat.two_pow_pos _)

theorem mem_all (prescaler : Prescaler) : prescaler ∈ all :=
  List.mem_map_of_mem (List.mem_finRange prescaler.code)

theorem all_ordered : all.Pairwise fun faster slower => faster.divisor < slower.divisor := by
  decide

theorem divisor_cases (prescaler : Prescaler) :
    prescaler.divisor = 2 ∨ ∃ faster : Prescaler, prescaler.divisor = 2 * faster.divisor := by
  have halves : ∀ prescaler ∈ all, prescaler.divisor = 2 ∨
      ∃ faster ∈ all, prescaler.divisor = 2 * faster.divisor := by decide
  rcases halves prescaler prescaler.mem_all with least | ⟨faster, -, twice⟩
  · exact .inl least
  · exact .inr ⟨faster, twice⟩

theorem divisor_le_slowest (prescaler : Prescaler) : prescaler.divisor ≤ slowest.divisor := by
  have bounded : ∀ prescaler ∈ all, prescaler.divisor ≤ slowest.divisor := by decide
  exact bounded prescaler prescaler.mem_all

theorem divisor_le_of_ne_slowest {prescaler : Prescaler} (apart : prescaler ≠ slowest) :
    prescaler.divisor ≤ 128 := by
  have bounded : ∀ prescaler ∈ all, prescaler ≠ slowest → prescaler.divisor ≤ 128 := by decide
  exact bounded prescaler prescaler.mem_all apart

theorem divisor_le_of_forRatio? {ratio : Nat} {found other : Prescaler}
    (finds : forRatio? ratio = some found) (bounds : ratio ≤ other.divisor) :
    found.divisor ≤ other.divisor := by
  obtain ⟨-, front, back, parts, passed⟩ := List.find?_eq_some_iff_append.mp finds
  have behind := (List.pairwise_cons.mp (List.pairwise_append.mp (parts ▸ all_ordered)).2.1).1
  have somewhere : other ∈ front ++ found :: back := parts ▸ other.mem_all
  rcases List.mem_append.mp somewhere with before | here
  · have unbounded : ¬ decide (ratio ≤ other.divisor) = true := by simpa using passed other before
    exact absurd (decide_eq_true bounds) unbounded
  · rcases List.mem_cons.mp here with rfl | after
    · exact Nat.le_refl _
    · exact Nat.le_of_lt (behind other after)

end Prescaler

/-! ## What is settled for two frequencies -/

namespace Clock

theorem frequency_negotiate (input wanted : Nat) : (negotiate input wanted).frequency =
    input / (negotiate input wanted).prescaler.divisor := rfl

theorem isClamped_iff (clock : Clock) (wanted : Nat) : clock.isClamped wanted = true ↔
    clock.prescaler = .slowest ∧ wanted < clock.frequency := by
  simp [isClamped]

section Settled

variable {input wanted : Nat} (moves : 0 < wanted)
include moves

/-- The divisor that is settled is the least that bounds the ratio, or the largest of all. -/
theorem negotiate_divisor_le_iff (other : Prescaler) :
    (negotiate input wanted).prescaler.divisor ≤ other.divisor ↔
      input / wanted ≤ other.divisor ∨ other = .slowest := by
  have chosen : (negotiate input wanted).prescaler =
      (Prescaler.forRatio? (input / wanted)).getD .slowest := if_neg (Nat.ne_of_gt moves)
  rw [chosen]
  cases finds : Prescaler.forRatio? (input / wanted) with
  | none =>
    have unbounded := List.find?_eq_none.mp finds other other.mem_all
    constructor
    · intro least
      refine .inr (Decidable.byContradiction fun apart => ?_)
      exact absurd (Nat.le_trans least (Prescaler.divisor_le_of_ne_slowest apart)) (by decide)
    · rintro (bounds | rfl)
      · exact absurd (decide_eq_true bounds) unbounded
      · exact Nat.le_refl _
  | some found =>
    constructor
    · intro least
      have bounds := (List.find?_eq_some_iff_append.mp finds).1
      exact .inl (Nat.le_trans (of_decide_eq_true bounds) least)
    · rintro (bounds | rfl)
      · exact Prescaler.divisor_le_of_forRatio? finds bounds
      · exact found.divisor_le_slowest

theorem negotiate_fastest : (negotiate input wanted).prescaler.divisor = 2 ∨
    (negotiate input wanted).prescaler.divisor / 2 * wanted < input := by
  rcases (negotiate input wanted).prescaler.divisor_cases with least | ⟨faster, twice⟩
  · exact .inl least
  have positive := faster.divisor_pos
  have unsettled : ¬ (negotiate input wanted).prescaler.divisor ≤ faster.divisor := by omega
  have below : faster.divisor < input / wanted := by
    refine Nat.lt_of_not_le fun bounds => unsettled ?_
    exact (negotiate_divisor_le_iff moves faster).mpr (.inl bounds)
  have half : (negotiate input wanted).prescaler.divisor / 2 = faster.divisor := by omega
  rw [half]
  have room : (faster.divisor + 1) * wanted ≤ input := (Nat.le_div_iff_mul_le moves).mp below
  rw [Nat.succ_mul] at room
  exact .inr (by omega)

theorem negotiate_bounds (apart : (negotiate input wanted).prescaler ≠ .slowest) :
    input / wanted ≤ (negotiate input wanted).prescaler.divisor :=
  ((negotiate_divisor_le_iff moves _).mp (Nat.le_refl _)).resolve_right apart

theorem isClamped_negotiate_iff :
    (negotiate input wanted).isClamped wanted = true ↔ wanted < input / 256 := by
  rw [isClamped_iff, frequency_negotiate]
  constructor
  · rintro ⟨slowest, above⟩
    rwa [slowest] at above
  · intro above
    have slowest : (negotiate input wanted).prescaler = .slowest := by
      refine Decidable.byContradiction fun apart => ?_
      have least := Nat.le_trans (negotiate_bounds moves apart)
        (Prescaler.divisor_le_of_ne_slowest apart)
      have room : (wanted + 1) * 256 ≤ input := (Nat.le_div_iff_mul_le (by decide)).mp above
      have bounded : input < (128 + 1) * wanted :=
        (Nat.div_lt_iff_lt_mul moves).mp (Nat.lt_succ_of_le least)
      omega
    exact ⟨slowest, by rwa [slowest]⟩

section Unclamped

variable (free : (negotiate input wanted).isClamped wanted = false)
include free

theorem negotiate_bounds_or_slow : (negotiate input wanted).frequency ≤ wanted ∨
    input / wanted ≤ (negotiate input wanted).prescaler.divisor := by
  by_cases slowest : (negotiate input wanted).prescaler = .slowest
  · refine .inl (Nat.le_of_not_lt fun above => ?_)
    have clamped := (isClamped_iff (negotiate input wanted) wanted).mpr ⟨slowest, above⟩
    cases free.symm.trans clamped
  · exact .inr (negotiate_bounds moves slowest)

/-- It is too fast by one part in the divisor at most: that is what rounding the ratio costs. -/
theorem negotiate_frequency_le : (negotiate input wanted).frequency ≤
    wanted + wanted / (negotiate input wanted).prescaler.divisor := by
  have positive := (negotiate input wanted).prescaler.divisor_pos
  rcases negotiate_bounds_or_slow moves free with slow | bounds
  · exact Nat.le_add_right_of_le slow
  calc (negotiate input wanted).frequency
      ≤ (wanted + (negotiate input wanted).prescaler.divisor * wanted) /
          (negotiate input wanted).prescaler.divisor := by
        refine Nat.div_le_div_right (Nat.le_of_lt ?_)
        have below := (Nat.div_lt_iff_lt_mul moves).mp (Nat.lt_succ_of_le bounds)
        rwa [Nat.succ_mul, Nat.add_comm] at below
    _ = wanted + wanted / (negotiate input wanted).prescaler.divisor := by
        rw [Nat.add_mul_div_left _ _ positive, Nat.add_comm]

theorem negotiate_frequency_le_of_dvd (exact : wanted ∣ input) :
    (negotiate input wanted).frequency ≤ wanted := by
  rcases negotiate_bounds_or_slow moves free with slow | bounds
  · exact slow
  · refine Nat.div_le_of_le_mul ?_
    calc input = input / wanted * wanted := (Nat.div_mul_cancel exact).symm
      _ ≤ (negotiate input wanted).prescaler.divisor * wanted :=
        Nat.mul_le_mul_right wanted bounds

end Unclamped

theorem negotiate_divisor_antitone {faster : Nat} (ordered : wanted ≤ faster) :
    (negotiate input faster).prescaler.divisor ≤ (negotiate input wanted).prescaler.divisor := by
  have both : 0 < faster := Nat.lt_of_lt_of_le moves ordered
  refine (negotiate_divisor_le_iff both _).mpr ?_
  refine ((negotiate_divisor_le_iff moves _).mp (Nat.le_refl _)).imp_left fun bounds => ?_
  exact Nat.le_trans (Nat.div_le_div_left ordered moves) bounds

theorem negotiate_frequency_monotone {faster : Nat} (ordered : wanted ≤ faster) :
    (negotiate input wanted).frequency ≤ (negotiate input faster).frequency :=
  Nat.div_le_div_left (negotiate_divisor_antitone moves ordered) (Prescaler.divisor_pos _)

theorem negotiate_divisor_monotone {more : Nat} (ordered : input ≤ more) :
    (negotiate input wanted).prescaler.divisor ≤ (negotiate more wanted).prescaler.divisor := by
  refine (negotiate_divisor_le_iff moves _).mpr ?_
  refine ((negotiate_divisor_le_iff moves _).mp (Nat.le_refl _)).imp_left fun bounds => ?_
  exact Nat.le_trans (Nat.div_le_div_right ordered) bounds

end Settled

/-- The settled clock is the input clock behind its divisor, and the fastest that is not faster
than wanted, as far as divisors and rounding allow. -/
structure BestEffort (input wanted : Nat) (clock : Clock) : Prop where
  derived : clock.input = input ∧ clock.frequency = input / clock.prescaler.divisor
  fastest : clock.prescaler.divisor = 2 ∨ clock.prescaler.divisor / 2 * wanted < input
  clamped_iff : clock.isClamped wanted = true ↔ wanted < input / 256
  near : clock.isClamped wanted = false →
    clock.frequency ≤ wanted + wanted / clock.prescaler.divisor
  exact : clock.isClamped wanted = false → wanted ∣ input → clock.frequency ≤ wanted

theorem negotiate_bestEffort (input : Nat) {wanted : Nat} (moves : 0 < wanted) :
    BestEffort input wanted (negotiate input wanted) where
  derived := ⟨rfl, frequency_negotiate input wanted⟩
  fastest := negotiate_fastest moves
  clamped_iff := isClamped_negotiate_iff moves
  near := negotiate_frequency_le moves
  exact := negotiate_frequency_le_of_dvd moves

end Clock

/-! ## What is said of it -/

/-- The texts of the warnings among the notices. -/
def warnings (notices : List Notice) : List String :=
  notices.filterMap fun notice =>
    match notice with
    | .log ⟨.warn, text⟩ => some text
    | _ => none

theorem warnings_append (notices later : List Notice) :
    warnings (notices ++ later) = warnings notices ++ warnings later :=
  List.filterMap_append

theorem warnings_of_plain {notices : List Notice}
    (plain : ∀ notice ∈ notices, notice.IsPlainLog) : warnings notices = [] := by
  refine List.filterMap_eq_nil_iff.mpr fun notice member => ?_
  obtain ⟨⟨level, text⟩, rfl, mild⟩ := plain notice member
  cases level with
  | warn => exact absurd rfl mild
  | _ => rfl

/-- What is said of a clock that even the largest divisor leaves too fast. -/
def belowSlowest (clock : Clock) (wanted : Nat) : String :=
  "Requested " ++ toString wanted ++ " kHz is below the slowest SCK (" ++
    toString clock.input ++ " kHz / 256), using " ++ toString clock.frequency ++ " kHz"

/-- What is said of any other clock that is too fast. -/
def aboveRequested (clock : Clock) (wanted : Nat) : String :=
  "SCK " ++ toString clock.frequency ++ " kHz is above the requested " ++ toString wanted ++
    " kHz (" ++ toString clock.input ++ " kHz / " ++ toString clock.prescaler.divisor ++ ")"

theorem warnings_map_warn (texts : List String) :
    warnings (texts.map fun text => .log ⟨.warn, text⟩) = texts := by
  rw [warnings, List.filterMap_map]
  exact List.filterMap_some

theorem belowSlowest_ne_aboveRequested (clock : Clock) (wanted : Nat) :
    belowSlowest clock wanted ≠ aboveRequested clock wanted := by
  have apart (first second : String) : "Requested " ++ first ≠ "SCK " ++ second := by
    intro same
    have letters := congrArg (fun text => text.toList.head?) same
    simp [String.toList_append] at letters
  unfold belowSlowest aboveRequested
  simp only [String.append_assoc]
  exact apart _ _

/-- The warnings given for a clock are exact. -/
structure WarnedOf (clock : Clock) (wanted : Nat) (given : List String) : Prop where
  once_iff : given.length = 1 ↔ wanted < clock.frequency
  clamped_iff : given = [belowSlowest clock wanted] ↔ clock.isClamped wanted = true
  above_iff : given = [aboveRequested clock wanted] ↔
    wanted < clock.frequency ∧ clock.isClamped wanted = false
  none_iff : given = [] ↔ clock.frequency ≤ wanted

theorem clockWarning?_exact (clock : Clock) (wanted : Nat) :
    WarnedOf clock wanted (clockWarning? clock wanted).toList := by
  have apart := belowSlowest_ne_aboveRequested clock wanted
  cases clamped : clock.isClamped wanted with
  | true =>
    have above := ((clock.isClamped_iff wanted).mp clamped).2
    have given : clockWarning? clock wanted = some (belowSlowest clock wanted) := if_pos clamped
    rw [given]
    exact
      { once_iff := ⟨fun _ => above, fun _ => rfl⟩
        clamped_iff := ⟨fun _ => clamped, fun _ => rfl⟩
        above_iff := ⟨fun same => absurd (List.cons.inj same).1 apart,
          fun free => nomatch clamped.symm.trans free.2⟩
        none_iff := ⟨nofun, fun slow => absurd above (Nat.not_lt_of_le slow)⟩ }
  | false =>
    have given : clockWarning? clock wanted =
        if wanted < clock.frequency then some (aboveRequested clock wanted) else none :=
      if_neg (Bool.eq_false_iff.mp clamped)
    rw [given]
    by_cases above : wanted < clock.frequency
    · rw [if_pos above]
      exact
        { once_iff := ⟨fun _ => above, fun _ => rfl⟩
          clamped_iff := ⟨fun same => absurd (List.cons.inj same).1.symm apart,
            fun slowest => nomatch clamped.symm.trans slowest⟩
          above_iff := ⟨fun _ => ⟨above, clamped⟩, fun _ => rfl⟩
          none_iff := ⟨nofun, fun slow => absurd above (Nat.not_lt_of_le slow)⟩ }
    · rw [if_neg above]
      exact
        { once_iff := ⟨nofun, fun fast => absurd fast above⟩
          clamped_iff := ⟨nofun, fun slowest => nomatch clamped.symm.trans slowest⟩
          above_iff := ⟨nofun, fun fast => absurd fast.1 above⟩
          none_iff := ⟨fun _ => Nat.le_of_not_lt above, fun _ => rfl⟩ }

/-! ## Settling it -/

section Runs

variable {σ : Type} (machine : Machine σ Link) (state : σ)

theorem utters_inputClock : inputClock.run.Utters Notice.IsPlainLog :=
  Dialogue.utters_bind_except (utters_query _ _) fun _ =>
    Dialogue.utters_bind_except ⟨⟨_, rfl, nofun⟩, trivial⟩ fun _ => trivial

section Asked

variable {wanted : Nat} (moves : 0 < wanted) {next : σ} {events : List Link.Event}
  {notices : List Notice}
include moves

theorem run_settleClock_error {error : Error}
    (asked : inputClock.run.run machine state = ⟨.error error, next, events, notices⟩) :
    (settleClock wanted).run.run machine state = ⟨.error error, next, events, notices⟩ := by
  unfold settleClock
  rw [if_neg (Nat.ne_of_gt moves), ExceptT.run_bind]
  show (inputClock.run >>= _).run machine state = _
  rw [Dialogue.run_bind, asked]
  simp [Dialogue.run_done, Dialogue.pure_eq]

theorem run_settleClock_ok {input : Nat}
    (asked : inputClock.run.run machine state = ⟨.ok input, next, events, notices⟩) :
    (settleClock wanted).run.run machine state =
      ⟨.ok (.negotiate input wanted), next, events, notices ++
        (clockWarning? (.negotiate input wanted) wanted).toList.map fun text =>
          .log ⟨.warn, text⟩⟩ := by
  unfold settleClock
  rw [if_neg (Nat.ne_of_gt moves), ExceptT.run_bind]
  show (inputClock.run >>= _).run machine state = _
  rw [Dialogue.run_bind, asked]
  cases given : clockWarning? (.negotiate input wanted) wanted with
  | none => simp [given, Dialogue.run_done, Dialogue.pure_eq]
  | some text =>
    have warned (clock : Clock) : (do note .warn text; return clock : Exchange Clock).run =
        .say (.log ⟨.warn, text⟩) (.done (.ok clock)) := rfl
    simp only [given, warned, Dialogue.run_say, Dialogue.run_done]
    simp

end Asked

end Runs

/-- The clock is the best that the divisors allow, it follows both frequencies, and the warnings
are exact; no frequency at all is refused before anything is asked. -/
theorem settled_clock_best_effort {σ : Type} (machine : Machine σ Link) (state : σ) {wanted : Nat}
    (moves : 0 < wanted) :
    let asked := inputClock.run.run machine state
    let settled := (settleClock wanted).run.run machine state
    (∀ input, Clock.BestEffort input wanted (.negotiate input wanted)) ∧
      (∀ input faster, wanted ≤ faster →
        (Clock.negotiate input faster).prescaler.divisor ≤
            (Clock.negotiate input wanted).prescaler.divisor ∧
          (Clock.negotiate input wanted).frequency ≤ (Clock.negotiate input faster).frequency) ∧
      (∀ input more, input ≤ more →
        (Clock.negotiate input wanted).prescaler.divisor ≤
          (Clock.negotiate more wanted).prescaler.divisor) ∧
      settled.events = asked.events ∧
      (match asked.value with
        | .error error => settled.value = .error error ∧ warnings settled.notices = []
        | .ok input =>
          settled.value = .ok (.negotiate input wanted) ∧
            WarnedOf (.negotiate input wanted) wanted (warnings settled.notices)) ∧
      (settleClock 0).run.run machine state =
        ⟨.error (.configuration "SPI speed must be at least 1 kHz"), state, [], []⟩ := by
  intro asked settled
  have quiet : warnings asked.notices = [] :=
    warnings_of_plain (Dialogue.notices_of_utters machine utters_inputClock state)
  refine ⟨fun input => Clock.negotiate_bestEffort input moves, fun input faster ordered =>
    ⟨Clock.negotiate_divisor_antitone moves ordered,
      Clock.negotiate_frequency_monotone moves ordered⟩,
    fun input more ordered => Clock.negotiate_divisor_monotone moves ordered, ?_⟩
  cases outcome : asked.value with
  | error error =>
    have failed : settled = ⟨.error error, asked.state, asked.events, asked.notices⟩ :=
      run_settleClock_error machine state moves (outcome ▸ rfl)
    rw [failed]
    exact ⟨rfl, ⟨rfl, quiet⟩, rfl⟩
  | ok input =>
    have heard : inputClock.run.run machine state =
        ⟨.ok input, asked.state, asked.events, asked.notices⟩ := outcome ▸ rfl
    have went : settled = _ := run_settleClock_ok machine state moves heard
    rw [went]
    refine ⟨rfl, ⟨rfl, ?_⟩, rfl⟩
    rw [warnings_append, quiet, warnings_map_warn]
    exact clockWarning?_exact _ wanted

/-- The ratio is just the largest divisor, and yet the clock is clamped. -/
theorem settled_clock_at_largest_ratio :
    let settled := (settleClock 1000).run.run Peer.machine (.emulated { clock := 256256 })
    0 < 1000 ∧ settled.value = .ok ⟨256256, .slowest, 1001⟩ ∧
      (Clock.negotiate 256256 1000).isClamped 1000 = true ∧
      warnings settled.notices =
        ["Requested 1000 kHz is below the slowest SCK (256256 kHz / 256), using 1001 kHz"] := by
  have settles := settled_clock_best_effort Peer.machine (.emulated { clock := 256256 })
    (show 0 < 1000 by decide)
  have clamped : (Clock.negotiate 256256 1000).isClamped 1000 = true :=
    (settles.1 256256).clamped_iff.mpr (by decide)
  obtain ⟨value, warned⟩ := settles.2.2.2.2.1
  refine ⟨by decide, value, clamped, ?_⟩
  rw [warned.clamped_iff.mpr clamped]
  rfl

end SpiProgrammer.Bridge
